import MessageCatalog.Proofs.Catalog.Stages

/-!
The entry points of a library agree. Asking whether there is a message, resolving with inserts,
resolving with inserts that came as documents and resolving a coded error all look up the same entry
first, so they refuse the same requests for the same reason, and shapes of documents count only
after the lookup.
-/

namespace MessageCatalog.Library

open Template

variable [KeySize]

/-- What the entry points have to do with each other for one code in one locale. -/
structure EntryPointsAgree (library : Library) (catalog code : String)
    (locale : Option String) : Prop where
  has_message : ∀ named positional verbose, library.hasMessage catalog code locale = false ↔
    ∃ cause, cause.IsLookup ∧
      library.resolve ⟨catalog, code, named, positional, locale, verbose⟩ = .error cause
  unfound : library.hasMessage catalog code locale = false → ∃ cause, cause.IsLookup ∧
    (∀ named positional verbose,
      library.resolve ⟨catalog, code, named, positional, locale, verbose⟩ = .error cause) ∧
    ∀ named positional verbose,
      library.resolveRaw catalog code named positional locale verbose = .error cause
  found : library.hasMessage catalog code locale = true → ∀ named positional verbose,
    library.resolveRaw catalog code named positional locale verbose =
      match NamedInserts.ofRaw named, PositionalInserts.ofRaw positional with
      | .error _, _ => .error (.inserts (.shape .named))
      | .ok _, .error _ => .error (.inserts (.shape .positional))
      | .ok given, .ok listed => library.resolve ⟨catalog, code, given, listed, locale, verbose⟩
  earliest : ∀ named positional verbose cause,
    library.resolve ⟨catalog, code, named, positional, locale, verbose⟩ = .error cause ↔
      Stage.all.findSome? (library.fault? ⟨catalog, code, named, positional, locale, verbose⟩) =
        some cause
  coded : ∀ error : CodedError, error.catalog = catalog → error.code = code →
    library.resolveCoded error locale =
      library.resolve ⟨catalog, code, error.named, error.positional, locale, false⟩

theorem hasMessage_eq_false_iff_resolve (library : Library) (request : Request) :
    library.hasMessage request.catalog request.code request.locale = false ↔
      ∃ cause, cause.IsLookup ∧ library.resolve request = .error cause := by
  rw [hasMessage_eq_false_iff]
  constructor
  · intro unfound
    obtain ⟨cause, failed⟩ := unfound
    exact ⟨cause, lookup_error_isLookup failed, resolve_of_unfound failed⟩
  · intro refused
    obtain ⟨cause, isLookup, failed⟩ := refused
    cases looked : library.lookup request.catalog request.code request.locale with
    | error other => exact ⟨other, rfl⟩
    | ok entry =>
        rw [resolve_of_found looked] at failed
        exact absurd isLookup (answer_error_not_isLookup failed)

theorem resolveRaw_of_unfound {library : Library} {catalog code : String} {locale : Option String}
    {cause : CatalogError} (failed : library.lookup catalog code locale = .error cause)
    (named positional : Option Json) (verbose : Bool) :
    library.resolveRaw catalog code named positional locale verbose = .error cause := by
  rw [resolveRaw, failed]
  rfl

theorem resolveRaw_of_found {library : Library} {catalog code : String} {locale : Option String}
    {entry : Entry} (looked : library.lookup catalog code locale = .ok entry)
    (named positional : Option Json) (verbose : Bool) :
    library.resolveRaw catalog code named positional locale verbose =
      match NamedInserts.ofRaw named, PositionalInserts.ofRaw positional with
      | .error _, _ => .error (.inserts (.shape .named))
      | .ok _, .error _ => .error (.inserts (.shape .positional))
      | .ok given, .ok listed =>
          library.resolve ⟨catalog, code, given, listed, locale, verbose⟩ := by
  rw [resolveRaw, looked]
  cases given : NamedInserts.ofRaw named with
  | error failure =>
      rw [NamedInserts.shape_of_refused given]
      rfl
  | ok keyed =>
      cases listed : PositionalInserts.ofRaw positional with
      | error failure =>
          rw [PositionalInserts.shape_of_refused listed]
          rfl
      | ok items => rfl

theorem entry_points_agree (library : Library) (catalog code : String) (locale : Option String) :
    library.EntryPointsAgree catalog code locale where
  has_message named positional verbose :=
    library.hasMessage_eq_false_iff_resolve ⟨catalog, code, named, positional, locale, verbose⟩
  unfound missing := by
    obtain ⟨cause, failed⟩ := hasMessage_eq_false_iff.mp missing
    refine ⟨cause, lookup_error_isLookup failed, ?_, resolveRaw_of_unfound failed⟩
    intro named positional verbose
    exact resolve_of_unfound failed
  found present := by
    obtain ⟨entry, looked⟩ := hasMessage_iff.mp present
    exact resolveRaw_of_found looked
  earliest named positional verbose cause :=
    library.resolve_error_iff ⟨catalog, code, named, positional, locale, verbose⟩ cause
  coded error sameCatalog sameCode := by
    rw [resolveCoded, sameCatalog, sameCode]

end MessageCatalog.Library
