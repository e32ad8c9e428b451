import MessageCatalog.Locale
import MessageCatalog.Proofs.Text.AsciiCase
import MessageCatalog.Proofs.Text.Trimming

/-!
The language that a header asks for. The cuts at commas, semicolons, hyphens and underscores, with
the trimming between them, come to one cut at the first of these signs and one trimming behind it,
so nothing else of the header counts.
-/

namespace MessageCatalog

open Text

theorem isAsciiLetter_eq (c : Char) : isAsciiLetter c = c.isAlpha := by
  rw [Bool.eq_iff_iff, isAlpha_iff, or_comm]
  simp [isAsciiLetter, Char.le_def, UInt32.le_iff_toNat_le]

/-- The signs that end a primary subtag. -/
def isSeparator (c : Char) : Bool := c ∈ [',', ';', '-', '_']

/-- What passes a test that the four signs fail is no separator. -/
theorem not_isSeparator_of_test {test : Char → Bool}
    (fails : test ',' = false ∧ test ';' = false ∧ test '-' = false ∧ test '_' = false) (c : Char)
    (passes : test c = true) :
    isSeparator c = false := by
  obtain ⟨comma, semicolon, hyphen, underscore⟩ := fails
  rw [isSeparator, decide_eq_false_iff_not]
  intro separator
  have failed : test c = false := by
    simp only [List.mem_cons, List.not_mem_nil, or_false] at separator
    rcases separator with rfl | rfl | rfl | rfl
    · exact comma
    · exact semicolon
    · exact hyphen
    · exact underscore
  rw [failed] at passes
  cases passes

theorem not_isSeparator_of_letter (c : Char) (letter : c.isAlpha = true) : isSeparator c = false :=
  not_isSeparator_of_test (by decide) c letter

theorem not_isSeparator_of_blank (c : Char) (blank : isBlank c = true) : isSeparator c = false :=
  not_isSeparator_of_test (by decide) c blank

/-- A header up to its first separator, without the white space around. -/
def primarySubtag (header : List Char) : List Char := trim (upTo isSeparator header)

/-- What stands in front of the first separator is the subtag with white space around it. -/
def IsPrimarySubtag (header subtag : List Char) : Prop :=
  ∃ before after rest, header = before ++ (subtag ++ after) ++ rest ∧ Blank before ∧ Blank after ∧
    (∀ c ∈ subtag, isSeparator c = false) ∧ (∀ c ∈ rest.head?, isSeparator c = true) ∧
    (∀ c ∈ subtag.head?, isBlank c = false) ∧ ∀ c ∈ subtag.getLast?, isBlank c = false

theorem primarySubtag_spec (header : List Char) :
    IsPrimarySubtag header (primarySubtag header) := by
  obtain ⟨rest, whole, free, stops⟩ := upTo_split isSeparator header
  obtain ⟨before, after, blankBefore, blankAfter, shape⟩ := trim_split (upTo isSeparator header)
  have inside : ∀ c ∈ primarySubtag header, isSeparator c = false := by
    intro c member
    apply free
    rw [shape]
    simp only [List.mem_append]
    exact Or.inr (Or.inl member)
  have ends := trim_ends (upTo isSeparator header)
  exact ⟨before, after, rest, shape ▸ whole, blankBefore, blankAfter, inside, stops, ends.1, ends.2⟩

/-- There is one way to cut a header. -/
theorem isPrimarySubtag_iff {header subtag : List Char} :
    IsPrimarySubtag header subtag ↔ subtag = primarySubtag header := by
  constructor
  · intro cut
    obtain ⟨before, after, rest, shape, blankBefore, blankAfter, inside, stops, solidHead,
        solidEnd⟩ := cut
    have free : ∀ c ∈ before ++ (subtag ++ after), isSeparator c = false := by
      intro c member
      simp only [List.mem_append] at member
      rcases member with inBefore | inSubtag | inAfter
      · exact not_isSeparator_of_blank c (blankBefore c inBefore)
      · exact inside c inSubtag
      · exact not_isSeparator_of_blank c (blankAfter c inAfter)
    rw [shape, primarySubtag, upTo_exact free stops,
      trim_exact blankBefore blankAfter solidHead solidEnd]
  · intro same
    rw [same]
    exact primarySubtag_spec header

/-- The language that a subtag of letters names. -/
def languageOf? (subtag : List Char) : Option String :=
  if !subtag.isEmpty && subtag.all isAsciiLetter then some (String.ofList (subtag.map Char.toLower))
  else none

theorem languageOf?_eq_some_iff {subtag : List Char} {language : String} :
    languageOf? subtag = some language ↔ (subtag ≠ [] ∧ ∀ c ∈ subtag, isAsciiLetter c = true) ∧
      language = String.ofList (subtag.map Char.toLower) := by
  have letters : (!subtag.isEmpty && subtag.all isAsciiLetter) = true ↔
      subtag ≠ [] ∧ ∀ c ∈ subtag, isAsciiLetter c = true := by
    rw [Bool.and_eq_true, List.all_eq_true, Bool.not_eq_true', ← Bool.not_eq_true, List.isEmpty_iff]
  rw [languageOf?, ← letters]
  split
  · next named => simp [named, eq_comm]
  · next other => simp [other]

theorem languageOf?_lower (subtag : List Char) :
    languageOf? (subtag.map Char.toLower) = languageOf? subtag := by
  apply Option.ext
  intro language
  rw [languageOf?_eq_some_iff, languageOf?_eq_some_iff]
  have same : Char.toLower ∘ Char.toLower = Char.toLower := funext toLower_toLower
  rw [List.map_map, same, List.forall_mem_map]
  simp only [isAsciiLetter_eq, isAlpha_toLower, ne_eq, List.map_eq_nil_iff]

/-- Three cuts with trimming between them are one cut. -/
theorem preferredLanguage?_eq (header : List Char) :
    preferredLanguage? header = languageOf? (primarySubtag header) := by
  have hyphens : ∀ c, isBlank c = true → (c == '-' || c == '_') = false := by
    intro c blank
    have other := not_isSeparator_of_blank c blank
    simp only [isSeparator, decide_eq_false_iff_not, List.mem_cons, List.not_mem_nil, or_false,
      not_or] at other
    simp [other.2.2.1, other.2.2.2]
  have signs : (fun c => c == ',' || (c == ';' || (c == '-' || c == '_'))) = isSeparator := by
    funext c
    rw [Bool.eq_iff_iff]
    simp [isSeparator]
  have primary : trim
      (upTo (fun c => c == '-' || c == '_') (trim (upTo (· == ';') (upTo (· == ',') header)))) =
        primarySubtag header := by
    rw [trim_upTo_trim hyphens, upTo_upTo, upTo_upTo, signs, primarySubtag]
  rw [preferredLanguage?, languageOf?, ← primary]

theorem preferredLanguage?_eq_some_iff {header : List Char} {language : String} :
    preferredLanguage? header = some language ↔
      (primarySubtag header ≠ [] ∧ ∀ c ∈ primarySubtag header, isAsciiLetter c = true) ∧
        language = String.ofList ((primarySubtag header).map Char.toLower) := by
  rw [preferredLanguage?_eq, languageOf?_eq_some_iff]

theorem primarySubtag_lower (header : List Char) :
    primarySubtag (header.map Char.toLower) = (primarySubtag header).map Char.toLower := by
  rw [primarySubtag, upTo_map (test_toLower not_isSeparator_of_letter),
    trim_map (test_toLower not_isBlank_of_letter), primarySubtag]

/-- Case is of no account. -/
theorem preferredLanguage?_lower (header : List Char) :
    preferredLanguage? (header.map Char.toLower) = preferredLanguage? header := by
  rw [preferredLanguage?_eq, preferredLanguage?_eq, primarySubtag_lower, languageOf?_lower]

theorem primarySubtag_append {separator : Char} (separates : isSeparator separator = true)
    (header rest : List Char) :
    primarySubtag (header ++ separator :: rest) = primarySubtag header := by
  have cut :
      upTo isSeparator (header ++ [separator] ++ rest) = upTo isSeparator (header ++ [separator]) :=
    upTo_append_of_stopped ⟨separator, by simp, separates⟩ rest
  have stop : upTo isSeparator (header ++ [separator]) = upTo isSeparator header := by
    by_cases stopped : ∃ c ∈ header, isSeparator c = true
    · exact upTo_append_of_stopped stopped [separator]
    · have free : ∀ c ∈ header, isSeparator c = false := by simpa using stopped
      rw [upTo_exact free (by simp [separates]), upTo_of_free free]
  rw [primarySubtag, List.append_cons, cut, stop, primarySubtag]

theorem primarySubtag_blank_append {blanks : List Char} (blank : Blank blanks)
    (header : List Char) :
    primarySubtag (blanks ++ header) = primarySubtag header := by
  have free : ∀ c ∈ blanks, isSeparator c = false :=
    fun c member => not_isSeparator_of_blank c (blank c member)
  rw [primarySubtag, upTo_append_of_free free, trim_blank_append blank, primarySubtag]

/-- A subtag of letters is its own primary subtag. -/
theorem primarySubtag_of_letters {subtag : List Char}
    (letters : ∀ c ∈ subtag, isAsciiLetter c = true) :
    primarySubtag subtag = subtag := by
  have alphabetic : ∀ c ∈ subtag, c.isAlpha = true :=
    fun c member => isAsciiLetter_eq c ▸ letters c member
  have solid : ∀ c ∈ subtag, isBlank c = false :=
    fun c member => not_isBlank_of_letter c (alphabetic c member)
  have free : ∀ c ∈ subtag, isSeparator c = false :=
    fun c member => not_isSeparator_of_letter c (alphabetic c member)
  have whole : IsPrimarySubtag subtag subtag :=
    ⟨[], [], [], by simp, List.forall_mem_nil _, List.forall_mem_nil _, free, by simp,
      fun c first => solid c (List.mem_of_mem_head? first),
      fun c last => solid c (List.mem_of_mem_getLast? last)⟩
  exact (isPrimarySubtag_iff.mp whole).symm

theorem toLower_letter_bounds {c : Char} (letter : isAsciiLetter c = true) :
    'a' ≤ c.toLower ∧ c.toLower ≤ 'z' := by
  have lowered := toNat_toLower c
  rw [isAsciiLetter_eq, isAlpha_iff] at letter
  rw [Char.le_def, Char.le_def, UInt32.le_iff_toNat_le, UInt32.le_iff_toNat_le, Char.toNat_val]
  change 97 ≤ c.toLower.toNat ∧ c.toLower.toNat ≤ 122
  split at lowered <;> omega

/-- A header asks for the language that its primary subtag names, when that is a run of ASCII
letters, written small. What follows the first separator, white space in front and the case of
letters change nothing, and a language asks for itself. -/
theorem preferred_language_of_primary_subtag (header : List Char) :
    (∀ subtag, IsPrimarySubtag header subtag ↔ subtag = primarySubtag header) ∧
      (∀ language, preferredLanguage? header = some language ↔
        (primarySubtag header ≠ [] ∧ ∀ c ∈ primarySubtag header, isAsciiLetter c = true) ∧
          language = String.ofList ((primarySubtag header).map Char.toLower)) ∧
      (∀ language, preferredLanguage? header = some language →
        language ≠ "" ∧ (∀ c ∈ language.toList, 'a' ≤ c ∧ c ≤ 'z') ∧
          preferredLanguage? language.toList = some language) ∧
      (∀ separator ∈ [',', ';', '-', '_'], ∀ rest,
        preferredLanguage? (header ++ separator :: rest) = preferredLanguage? header) ∧
      (∀ blanks, (∀ c ∈ blanks, isBlank c = true) →
        preferredLanguage? (blanks ++ header) = preferredLanguage? header) ∧
      ∀ variant, variant.map Char.toLower = header.map Char.toLower →
        preferredLanguage? variant = preferredLanguage? header := by
  refine ⟨fun subtag => isPrimarySubtag_iff, fun language => preferredLanguage?_eq_some_iff, ?_,
    ?_, ?_, ?_⟩
  · intro language asked
    obtain ⟨⟨given, letters⟩, rfl⟩ := preferredLanguage?_eq_some_iff.mp asked
    rw [String.toList_ofList]
    refine ⟨by simpa using given, ?_, ?_⟩
    · intro c member
      obtain ⟨letter, inside, rfl⟩ := List.mem_map.mp member
      exact toLower_letter_bounds (letters letter inside)
    · rw [preferredLanguage?_lower, preferredLanguage?_eq, primarySubtag_of_letters letters,
        ← preferredLanguage?_eq]
      exact asked
  · intro separator separates rest
    have isSign : isSeparator separator = true := by simpa [isSeparator] using separates
    rw [preferredLanguage?_eq, primarySubtag_append isSign, preferredLanguage?_eq]
  · intro blanks blank
    rw [preferredLanguage?_eq, primarySubtag_blank_append blank, preferredLanguage?_eq]
  · intro variant same
    rw [← preferredLanguage?_lower variant, same, preferredLanguage?_lower]

/-- White space before a separator belongs to the subtag and goes with it. -/
example : preferredLanguage? " \u00a0De\t- AT;q=0.9,en".toList = some "de" := by decide

/-- A separator in front leaves no subtag. -/
example : preferredLanguage? " ,de".toList = none := by decide

end MessageCatalog
