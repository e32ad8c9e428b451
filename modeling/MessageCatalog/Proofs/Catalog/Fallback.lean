import MessageCatalog.Proofs.Catalog.Documents

/-!
Falling back to the default locale. An entry in the table of the locale asked for is taken from
there; a code that this table does not have, or whose table is missing, is taken from the default
table; and for the default locale itself no other table is looked at.
-/

namespace MessageCatalog.Library

/-- The library was loaded from files in which `document` is the catalog's document. -/
def Holds (library : Library) (catalog : String) (document : Keyed Table) : Prop :=
  ∃ tree indexPath, load tree indexPath = .ok library ∧ DocumentOf tree indexPath catalog document

variable {left right library : Library} {catalog : String}
    {document leftDocument rightDocument : Keyed Table}

theorem findEntry?_of_holds (holds : library.Holds catalog document) (code : String)
    (asked : Option String) :
    library.findEntry? catalog code asked =
      (entryIn? document (asked.getD defaultLocale) code).or
        (entryIn? document defaultLocale code) := by
  obtain ⟨tree, indexPath, loaded, source⟩ := holds
  exact findEntry?_of_document loaded source code asked

theorem usable_of_holds (holds : library.Holds catalog document) :
    library.check catalog = .ok () := by
  obtain ⟨tree, indexPath, loaded, source⟩ := holds
  exact usable_of_document loaded source

/-- Two lookups agree when the entries of the documents do, under fallback. -/
theorem lookup_of_holds (holdsLeft : left.Holds catalog leftDocument)
    (holdsRight : right.Holds catalog rightDocument) {code : String} {asked other : Option String}
    (same : (entryIn? leftDocument (asked.getD defaultLocale) code).or
        (entryIn? leftDocument defaultLocale code) =
      (entryIn? rightDocument (other.getD defaultLocale) code).or
        (entryIn? rightDocument defaultLocale code)) :
    left.lookup catalog code asked = right.lookup catalog code other := by
  apply lookup_congr
  · rw [usable_of_holds holdsLeft, usable_of_holds holdsRight]
  · intro _
    rw [findEntry?_of_holds holdsLeft, findEntry?_of_holds holdsRight, same]

section Resolving

variable [Template.KeySize]

/-- The libraries give the same message or fail alike, each in its own locale, whatever the
inserts. -/
def AnswersAlike (left right : Library) (catalog code : String)
    (asked other : Option String) : Prop :=
  ∀ named positional verbose,
    left.resolve ⟨catalog, code, named, positional, asked, verbose⟩ =
      right.resolve ⟨catalog, code, named, positional, other, verbose⟩

structure FollowsFallback (library : Library) (catalog : String)
    (document : Keyed Table) : Prop where
  default_by_name : ∀ code, library.AnswersAlike library catalog code (some "en") none
  default_alone : ∀ code other otherDocument, other.Holds catalog otherDocument →
    SameEntries document otherDocument "en" → library.AnswersAlike other catalog code none none
  missing_entry : ∀ code locale, entryIn? document locale code = none →
    library.AnswersAlike library catalog code (some locale) none
  own_entry : ∀ code locale entry, entryIn? document locale code = some entry →
    ∀ other otherDocument, other.Holds catalog otherDocument →
      entryIn? otherDocument locale code = some entry →
        library.AnswersAlike other catalog code (some locale) (some locale)
  has_message : ∀ code locale, library.hasMessage catalog code none = true →
    library.hasMessage catalog code (some locale) = true
  other_codes : ∀ code locale other otherDocument, other.Holds catalog otherDocument →
    (∀ elsewhere, elsewhere ≠ locale → SameEntries document otherDocument elsewhere) →
      entryIn? document locale code = entryIn? otherDocument locale code →
        ∀ asked, library.AnswersAlike other catalog code asked asked

theorem alike_of_holds (holdsLeft : left.Holds catalog leftDocument)
    (holdsRight : right.Holds catalog rightDocument) {code : String} {asked other : Option String}
    (same : (entryIn? leftDocument (asked.getD defaultLocale) code).or
        (entryIn? leftDocument defaultLocale code) =
      (entryIn? rightDocument (other.getD defaultLocale) code).or
        (entryIn? rightDocument defaultLocale code)) :
    left.AnswersAlike right catalog code asked other :=
  resolve_congr (lookup_of_holds holdsLeft holdsRight same)

theorem follows_fallback_of_holds (holds : library.Holds catalog document) :
    library.FollowsFallback catalog document where
  default_by_name code := by
    apply alike_of_holds holds holds
    rfl
  default_alone code other otherDocument holdsOther same := by
    apply alike_of_holds holds holdsOther
    rw [Option.getD_none, defaultLocale, same code]
  missing_entry code locale missing := by
    apply alike_of_holds holds holds
    rw [Option.getD_some, missing, Option.getD_none, Option.none_or, Option.or_self]
  own_entry code locale entry present other otherDocument holdsOther presentOther := by
    apply alike_of_holds holds holdsOther
    rw [Option.getD_some, present, presentOther, Option.some_or, Option.some_or]
  has_message code locale present := by
    have usable := usable_of_holds holds
    obtain ⟨entry, looked⟩ := hasMessage_iff.mp present
    have found := (lookup_ok_iff.mp looked).2
    rw [findEntry?_of_holds holds, Option.getD_none, Option.or_self] at found
    rw [hasMessage, usable, findEntry?_of_holds holds, found]
    simp [Except.isOk, Except.toBool]
  other_codes code locale other otherDocument holdsOther elsewhere here asked := by
    have same : ∀ name, entryIn? document name code = entryIn? otherDocument name code := by
      intro name
      by_cases named : name = locale
      · rw [named, here]
      · exact elsewhere name named code
    apply alike_of_holds holds holdsOther
    rw [same, same]

theorem follows_fallback {tree : FileTree} {indexPath : String}
    (loaded : load tree indexPath = .ok library) (usable : library.check catalog = .ok ()) :
    ∃ document, DocumentOf tree indexPath catalog document ∧
      library.FollowsFallback catalog document := by
  obtain ⟨document, source⟩ := document_of_usable loaded usable
  exact ⟨document, source, follows_fallback_of_holds ⟨tree, indexPath, loaded, source⟩⟩

end Resolving

/-- A catalog whose table for `de` has one of the two codes of the default table. -/
def partlyGerman : String :=
  "\x7b\"en\":\x7b\"X\":\x7b\"message\":\"a\"\x7d,\"Y\":\x7b\"message\":\"b\"\x7d\x7d,\"de\":\x7b\"X\":\x7b\"message\":\"c\"\x7d\x7d\x7d"

theorem follows_fallback_partly_german :
    ∃ library, load (oneCatalog partlyGerman) "index.json" = .ok library ∧
      library.check "c" = .ok () ∧
      ∃ document, DocumentOf (oneCatalog partlyGerman) "index.json" "c" document ∧
        library.FollowsFallback "c" document := by
  have written : (Node.ofText? .json .whole partlyGerman).bind decodeCatalog? =
      some [("en", [("X", ⟨some "a", none, none, none, none, []⟩),
          ("Y", ⟨some "b", none, none, none, none, []⟩)]),
        ("de", [("X", ⟨some "c", none, none, none, none, []⟩)])] := by cbv
  have loaded := load_oneCatalog written rfl
  exact ⟨_, loaded, rfl, follows_fallback loaded rfl⟩

end MessageCatalog.Library
