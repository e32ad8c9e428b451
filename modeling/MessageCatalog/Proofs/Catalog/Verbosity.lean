import MessageCatalog.Proofs.Catalog.WireForm
import MessageCatalog.Proofs.Insert.Overlay

/-!
What is reported of the inserts. Asking for the insert context adds it to the message and does
nothing else: the texts are the same, and so is every failure. Of the entry a message keeps what has
no slots, and which of the texts there are, whatever the inserts.
-/

namespace MessageCatalog.Library

variable {tree : FileTree} {indexPath catalog code : String} {library : Library}
    {locale : Option String} {entry : Entry} {named : NamedInserts}

/-- The entry that a catalog's document has for a code, in the table of the locale or else in the
default one. -/
def Selects (tree : FileTree) (indexPath catalog code : String) (locale : Option String)
    (entry : Entry) : Prop :=
  ∃ document, DocumentOf tree indexPath catalog document ∧
    (entryIn? document (locale.getD defaultLocale) code).or (entryIn? document defaultLocale code) =
      some entry

theorem lookup_ok_iff_selects (loaded : load tree indexPath = .ok library) :
    library.lookup catalog code locale = .ok entry ↔
      Selects tree indexPath catalog code locale entry := by
  rw [lookup_ok_iff]
  constructor
  · rintro ⟨usable, found⟩
    obtain ⟨document, source⟩ := document_of_usable loaded usable
    rw [findEntry?_of_document loaded source] at found
    exact ⟨document, source, found⟩
  · rintro ⟨document, source, found⟩
    refine ⟨usable_of_document loaded source, ?_⟩
    rw [findEntry?_of_document loaded source, found]

/-- One set written over by another: the keys of both, the lower ones first and each side in its own
order, with the upper values where there are any. -/
structure Merged (lower upper merged : NamedInserts) : Prop where
  keys : merged.keys = lower.keys ++ upper.keys.filter (· ∉ lower.keys)
  values : ∀ key, merged.get? key = (upper.get? key).or (lower.get? key)

theorem merged_context (entry : Entry) (named : NamedInserts) :
    Merged named (entry.namedInserts.getD .empty) (context entry named) := by
  cases given : entry.namedInserts with
  | none =>
      rw [context, given, Option.getD_none]
      constructor
      · exact (List.append_nil _).symm
      · intro key
        rfl
  | some own =>
      rw [context, given, Option.getD_some]
      constructor
      · exact NamedInserts.keys_overlay named own
      · intro key
        exact NamedInserts.get?_overlay key named own

/-- What a message keeps of its entry. -/
structure Keeps (entry : Entry) (message : Message) : Prop where
  url : message.url = entry.url
  extra : message.extra = entry.extra
  action : message.action.isSome = entry.action.isSome
  detail : message.detail.isSome = entry.detail.isSome

/-- The message with the insert context against the one without it. -/
structure AddsContext (entry : Entry) (named : NamedInserts) (quiet verbose : Message) : Prop where
  message : verbose.message = quiet.message
  action : verbose.action = quiet.action
  detail : verbose.detail = quiet.detail
  url : verbose.url = quiet.url
  extra : verbose.extra = quiet.extra
  without : quiet.namedInserts = none
  context : ∃ merged, verbose.namedInserts = some merged ∧
    Merged named (entry.namedInserts.getD .empty) merged

theorem keeps_fillIn (entry : Entry) (text : String) (substitution : Template.Substitution)
    (shown : Option NamedInserts) : Keeps entry (fillIn entry text substitution shown) where
  url := rfl
  extra := rfl
  action := Option.isSome_map
  detail := Option.isSome_map

theorem addsContext_fillIn (entry : Entry) (named : NamedInserts) (text : String)
    (substitution : Template.Substitution) :
    AddsContext entry named (fillIn entry text substitution none)
      (fillIn entry text substitution (some (context entry named))) where
  message := rfl
  action := rfl
  detail := rfl
  url := rfl
  extra := rfl
  without := rfl
  context := ⟨context entry named, rfl, merged_context entry named⟩

section Resolving

variable [Template.KeySize]

/-- What is wrong with a request does not depend on what it asks to be shown. -/
theorem answer_alike (entry : Entry) (catalog code : String) (locale : Option String)
    (named : NamedInserts) (positional : PositionalInserts) :
    Outcome.Alike (fun quiet verbose => Keeps entry quiet ∧ AddsContext entry named quiet verbose)
      (answer ⟨catalog, code, named, positional, locale, false⟩ entry)
      (answer ⟨catalog, code, named, positional, locale, true⟩ entry) := by
  by_cases empty : entry.message.getD "" = ""
  · rw [answer, answer, if_pos empty, if_pos empty]
    exact .error _
  · rw [answer, answer, if_neg empty, if_neg empty]
    dsimp only
    cases Template.oversized? (context entry named) positional with
    | some place => exact .error _
    | none => exact .ok ⟨keeps_fillIn entry _ _ _, addsContext_fillIn entry named _ _⟩

/-- Either there is no entry, and every request for it fails in one way, or one entry is selected
for all of them. Then a request that asks for the insert context and one that does not come out
alike but for the context. -/
theorem verbose_adds_context (loaded : load tree indexPath = .ok library) (catalog code : String)
    (locale : Option String) :
    ((∀ entry, ¬ Selects tree indexPath catalog code locale entry) ∧
      ∃ cause, ∀ named positional verbose,
        library.resolve ⟨catalog, code, named, positional, locale, verbose⟩ = .error cause) ∨
    ∃ entry, Selects tree indexPath catalog code locale entry ∧ ∀ named positional,
      Outcome.Alike (fun quiet verbose => Keeps entry quiet ∧ AddsContext entry named quiet verbose)
        (library.resolve ⟨catalog, code, named, positional, locale, false⟩)
        (library.resolve ⟨catalog, code, named, positional, locale, true⟩) := by
  cases looked : library.lookup catalog code locale with
  | error cause =>
      apply Or.inl
      constructor
      · intro entry selected
        rw [(lookup_ok_iff_selects loaded).mpr selected] at looked
        cases looked
      · exact ⟨cause, fun named positional verbose => resolve_of_unfound looked⟩
  | ok entry =>
      apply Or.inr
      refine ⟨entry, (lookup_ok_iff_selects loaded).mp looked, ?_⟩
      intro named positional
      have quiet : library.resolve ⟨catalog, code, named, positional, locale, false⟩ = _ :=
        resolve_of_found looked
      have verbose : library.resolve ⟨catalog, code, named, positional, locale, true⟩ = _ :=
        resolve_of_found looked
      rw [quiet, verbose]
      exact answer_alike entry catalog code locale named positional

end Resolving

/-- The entry's own insert is reported in the caller's place for it. -/
theorem verbose_adds_context_shown :
    let named : NamedInserts := .ofPairs [("z", .text "no"), ("id", .text "7")]
    load (oneCatalog shownContent) "index.json" = .ok shownLibrary ∧
      ∃ entry quiet verbose, Selects (oneCatalog shownContent) "index.json" "c" "X" none entry ∧
        shownLibrary.resolve ⟨"c", "X", named, [], none, false⟩ = .ok quiet ∧
        shownLibrary.resolve ⟨"c", "X", named, [], none, true⟩ = .ok verbose ∧
        Keeps entry quiet ∧ AddsContext entry named quiet verbose ∧ quiet.message = "7" ∧
        verbose.namedInserts = some (.ofPairs [("z", .boolean true), ("id", .text "7")]) := by
  intro named
  have looked : shownLibrary.lookup "c" "X" none = .ok shownEntry := rfl
  have fits : Template.oversized? (context shownEntry named) [] = none := by cbv
  have filled : Template.Substitution.render
      ((Template.placedInserts (context shownEntry named) []).map Template.Placed.rule) "{id}" =
        "7" := by decide +kernel
  have answered : ∀ verbose, ∃ message,
      shownLibrary.resolve ⟨"c", "X", named, [], none, verbose⟩ = .ok message ∧
        message.message = "7" ∧
        message.namedInserts =
          if verbose then some (.ofPairs [("z", .boolean true), ("id", .text "7")]) else none := by
    intro verbose
    refine ⟨_, (resolve_of_found looked).trans (answer_of_fits (by decide) fits), filled, ?_⟩
    cases verbose <;> rfl
  obtain ⟨quiet, plain, shown, _⟩ := answered false
  obtain ⟨verbose, asked, _, reported⟩ := answered true
  refine ⟨load_shown, ?_⟩
  rcases verbose_adds_context load_shown "c" "X" none with
      ⟨_, cause, failed⟩ | ⟨entry, selected, alike⟩
  · rw [failed] at plain
    cases plain
  · have both := alike named []
    rw [plain, asked] at both
    cases both with
    | ok values =>
        exact ⟨entry, quiet, verbose, selected, plain, asked, values.1, values.2, shown, reported⟩

end MessageCatalog.Library
