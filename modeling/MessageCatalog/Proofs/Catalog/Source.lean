import MessageCatalog.Catalog.Source
import MessageCatalog.Proofs.Text.CaseFold

/-!
Which index entries are local: those with a text as their url that starts with the file scheme in
any case.
-/

namespace MessageCatalog.Source

open Text

theorem isLocalUrl_iff (url : List Char) :
    isLocalUrl url = true ↔ ∃ scheme rest, url = scheme ++ rest ∧ SameText fileScheme scheme := by
  rw [isLocalUrl, Option.isSome_iff_exists]
  constructor
  · rintro ⟨rest, dropped⟩
    obtain ⟨scheme, shape⟩ := dropStart?_eq_some_iff.mp dropped
    exact ⟨scheme, rest, shape⟩
  · rintro ⟨scheme, rest, shape⟩
    exact ⟨rest, dropStart?_eq_some_iff.mpr ⟨scheme, shape⟩⟩

theorem ofUrl_eq_here_iff (given url : String) :
    ofUrl given = here url ↔ given = url ∧ isLocalUrl given.toList = true := by
  unfold ofUrl
  split
  · next isLocal => simp [isLocal]
  · next foreign =>
      split
      · simp [foreign]
      · simp [foreign]

theorem classify_eq_here_iff (given : Option Json) (url : String) :
    classify given = here url ↔ given = some (.text url) ∧ isLocalUrl url.toList = true := by
  cases given with
  | none => simp [classify]
  | some value =>
      cases value with
      | text given =>
          rw [classify, ofUrl_eq_here_iff]
          constructor
          · rintro ⟨rfl, isLocal⟩
            exact ⟨rfl, isLocal⟩
          · rintro ⟨same, isLocal⟩
            cases same
            exact ⟨rfl, isLocal⟩
      | _ => simp [classify]

end MessageCatalog.Source
