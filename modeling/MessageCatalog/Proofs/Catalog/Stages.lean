import MessageCatalog.Catalog.Resolution
import MessageCatalog.Proofs.Outcome
import MessageCatalog.Proofs.Template.Compilation

/-!
The stages of resolving. A request may be wrong at several stages at once, and the first of them
decides the error; so all entry points agree on what they refuse and why.
-/

namespace MessageCatalog

/-- The errors of requests for which there is no entry. -/
def CatalogError.IsLookup : CatalogError → Prop
  | catalogNotFound _ | urlNotText _ _ | remoteCatalog _ | unknownScheme _ | messageNotFound _ _ =>
      True
  | _ => False

inductive Stage where
  | lookup
  | text
  | keys

/-- In the order in which they are gone through. -/
def Stage.all : List Stage := [lookup, text, keys]

namespace Library

open Template

theorem check_error_isLookup {library : Library} {catalog : String} {cause : CatalogError}
    (failed : library.check catalog = .error cause) : cause.IsLookup := by
  unfold check at failed
  split at failed
  all_goals cases failed
  all_goals trivial

theorem lookup_ok_iff {library : Library} {catalog code : String} {locale : Option String}
    {entry : Entry} :
    library.lookup catalog code locale = .ok entry ↔
      library.check catalog = .ok () ∧ library.findEntry? catalog code locale = some entry := by
  rw [lookup, Outcome.bind_ok_iff]
  constructor
  · intro success
    obtain ⟨_, usable, found⟩ := success
    refine ⟨usable, ?_⟩
    split at found
    · next shape =>
        cases found
        exact shape
    · cases found
  · intro success
    refine ⟨(), success.1, ?_⟩
    rw [success.2]

theorem lookup_error_iff {library : Library} {catalog code : String} {locale : Option String}
    {cause : CatalogError} :
    library.lookup catalog code locale = .error cause ↔
      library.check catalog = .error cause ∨ library.check catalog = .ok () ∧
        library.findEntry? catalog code locale = none ∧ cause = .messageNotFound code catalog := by
  rw [lookup, Outcome.bind_error_iff]
  apply or_congr_right
  constructor
  · intro failure
    obtain ⟨_, usable, missing⟩ := failure
    refine ⟨usable, ?_⟩
    split at missing
    · cases missing
    · next absent =>
        cases missing
        exact ⟨absent, rfl⟩
  · intro failure
    refine ⟨(), failure.1, ?_⟩
    rw [failure.2.1, failure.2.2]

theorem lookup_error_isLookup {library : Library} {catalog code : String} {locale : Option String}
    {cause : CatalogError} (failed : library.lookup catalog code locale = .error cause) :
    cause.IsLookup := by
  rcases lookup_error_iff.mp failed with unusable | missing
  · exact check_error_isLookup unusable
  · rw [missing.2.2]
    trivial

theorem hasMessage_iff {library : Library} {catalog code : String} {locale : Option String} :
    library.hasMessage catalog code locale = true ↔
      ∃ entry, library.lookup catalog code locale = .ok entry := by
  simp only [lookup_ok_iff, exists_and_left, hasMessage, Bool.and_eq_true, Option.isSome_iff_exists]
  apply and_congr_left
  intro _
  cases library.check catalog <;> simp [Except.isOk, Except.toBool]

theorem hasMessage_eq_false_iff {library : Library} {catalog code : String}
    {locale : Option String} :
    library.hasMessage catalog code locale = false ↔
      ∃ cause, library.lookup catalog code locale = .error cause := by
  rw [← Bool.not_eq_true, hasMessage_iff]
  cases library.lookup catalog code locale <;> simp

variable [KeySize]

/-- The caller's inserts, under those of the entry where there is one. -/
def insertsFor (library : Library) (request : Request) : NamedInserts :=
  match library.findEntry? request.catalog request.code request.locale with
  | some entry => context entry request.named
  | none => request.named

/-- What is wrong with a request at one stage, whatever is wrong with it at the others. -/
def fault? (library : Library) (request : Request) : Stage → Option CatalogError
  | .lookup =>
      match library.check request.catalog with
      | .error cause => some cause
      | .ok () =>
          if (library.findEntry? request.catalog request.code request.locale).isNone then
            some (.messageNotFound request.code request.catalog)
          else none
  | .text =>
      match library.findEntry? request.catalog request.code request.locale with
      | some entry =>
          if entry.message.getD "" = "" then
            some (.messageWithoutText request.code request.catalog)
          else none
      | none => none
  | .keys =>
      (oversized? (library.insertsFor request) request.positional).map fun place =>
        .inserts (.unsupported place .patternTooLarge)

/-- What becomes of a request whose entry has been found. -/
def answer (request : Request) (entry : Entry) : Except CatalogError Message :=
  if entry.message.getD "" = "" then .error (.messageWithoutText request.code request.catalog)
  else
    match oversized? (context entry request.named) request.positional with
    | some place => .error (.inserts (.unsupported place .patternTooLarge))
    | none =>
        .ok (fillIn entry (entry.message.getD "")
          ((placedInserts (context entry request.named) request.positional).map Placed.rule)
          (if request.verbose then some (context entry request.named) else none))

theorem resolve_eq (library : Library) (request : Request) :
    library.resolve request =
      library.lookup request.catalog request.code request.locale >>= answer request := by
  unfold resolve
  congr 1
  funext entry
  simp only [answer, ofInserts_eq]
  cases message : entry.message with
  | none => simp [textOf, message, bind, Except.bind]
  | some text =>
      by_cases empty : text = ""
      · simp [textOf, message, empty, bind, Except.bind]
      · have full : textOf entry request.catalog request.code = .ok text := by
          simp [textOf, message, empty]
        rw [full, Option.getD_some, if_neg empty]
        cases oversized? (context entry request.named) request.positional <;> rfl

theorem resolve_of_unfound {library : Library} {request : Request} {cause : CatalogError}
    (failed : library.lookup request.catalog request.code request.locale = .error cause) :
    library.resolve request = .error cause := by
  rw [resolve_eq, failed]
  rfl

theorem resolve_of_found {library : Library} {request : Request} {entry : Entry}
    (found : library.lookup request.catalog request.code request.locale = .ok entry) :
    library.resolve request = answer request entry := by
  rw [resolve_eq, found]
  rfl

/-- Beyond the lookup neither the library nor the locale matters. -/
theorem resolve_congr {left right : Library} {catalog code : String} {asked other : Option String}
    (same : left.lookup catalog code asked = right.lookup catalog code other) (named : NamedInserts)
    (positional : PositionalInserts) (verbose : Bool) :
    left.resolve ⟨catalog, code, named, positional, asked, verbose⟩ =
      right.resolve ⟨catalog, code, named, positional, other, verbose⟩ := by
  rw [resolve_eq, resolve_eq, same]
  rfl

theorem answer_of_fits {request : Request} {entry : Entry} (full : entry.message.getD "" ≠ "")
    (fits : oversized? (context entry request.named) request.positional = none) :
    answer request entry = .ok (fillIn entry (entry.message.getD "")
      ((placedInserts (context entry request.named) request.positional).map Placed.rule)
        (if request.verbose then some (context entry request.named) else none)) := by
  rw [answer, if_neg full, fits]

theorem message_of_answer {request : Request} {entry : Entry} {message : Message}
    (answered : answer request entry = .ok message) :
    message.message = Substitution.render
      ((placedInserts (context entry request.named) request.positional).map Placed.rule)
        (entry.message.getD "") := by
  unfold answer at answered
  split at answered
  · cases answered
  · split at answered
    · cases answered
    · cases answered
      rfl

theorem answer_error_not_isLookup {request : Request} {entry : Entry} {cause : CatalogError}
    (failed : answer request entry = .error cause) : ¬ cause.IsLookup := by
  intro isLookup
  unfold answer at failed
  split at failed
  · cases failed
    exact isLookup
  · split at failed
    · cases failed
      exact isLookup
    · cases failed

theorem lookup_fault_iff {library : Library} {request : Request} {cause : CatalogError} :
    library.fault? request .lookup = some cause ↔
      library.lookup request.catalog request.code request.locale = .error cause := by
  rw [lookup_error_iff, fault?]
  cases library.check request.catalog with
  | error other => simp
  | ok _ =>
      cases library.findEntry? request.catalog request.code request.locale with
      | none => simp [eq_comm]
      | some entry => simp

theorem resolve_error_iff (library : Library) (request : Request) (cause : CatalogError) :
    library.resolve request = .error cause ↔
      Stage.all.findSome? (library.fault? request) = some cause := by
  simp only [Stage.all, List.findSome?_cons, List.findSome?_nil]
  cases looked : library.lookup request.catalog request.code request.locale with
  | error other =>
      rw [resolve_of_unfound looked, lookup_fault_iff.mpr looked]
      simp
  | ok entry =>
      have found := (lookup_ok_iff.mp looked).2
      have passed : library.fault? request .lookup = none := by
        rw [Option.eq_none_iff_forall_ne_some]
        intro other fault
        rw [lookup_fault_iff, looked] at fault
        cases fault
      rw [resolve_of_found looked, passed, answer]
      simp only [fault?, insertsFor, found]
      by_cases empty : entry.message.getD "" = ""
      · simp [empty]
      · cases oversized? (context entry request.named) request.positional with
        | none => simp [empty]
        | some place => simp [empty]

end Library

end MessageCatalog
