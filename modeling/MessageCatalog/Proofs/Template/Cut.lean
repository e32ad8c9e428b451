import MessageCatalog.Proofs.Template.Pass

/-!
One replacement pass over any text, with any key. The pass cuts the text into gaps with occurrences
of the braced key between them and writes the value for each occurrence. Braces inside a key let
occurrences overlap; the pass then takes the one that begins first and goes on behind it, so that no
occurrence begins inside a gap, and this alone determines the cut. Without braces in the key
occurrences keep apart and the pass takes all of them.
-/

namespace MessageCatalog.Template

open Text

/-- A text equal to the pattern up to case, and so of its length, begins at `place`. -/
def OccursAt (pattern text : List Char) (place : Nat) : Prop :=
  SameText pattern ((text.drop place).take pattern.length)

theorem occursAt_append_iff {pattern : List Char} (before text : List Char) (place : Nat) :
    OccursAt pattern (before ++ text) (before.length + place) ↔ OccursAt pattern text place := by
  rw [OccursAt, OccursAt, List.drop_length_add_append]

theorem occursAt_cons_iff {pattern text : List Char} {c : Char} {place : Nat} :
    OccursAt pattern (c :: text) (place + 1) ↔ OccursAt pattern text place := by
  rw [OccursAt, OccursAt, List.drop_succ_cons]

theorem occursAt_of_sameText {pattern found : List Char} (same : SameText pattern found)
    (rest : List Char) :
    OccursAt pattern (found ++ rest) 0 := by
  rw [OccursAt, List.drop_zero, same.length_eq, List.take_left]
  exact same

theorem dropStart?_eq_none_iff {pattern text : List Char} :
    dropStart? pattern text = none ↔ ¬ OccursAt pattern text 0 := by
  constructor
  · intro missing occurs
    have split : text = text.take pattern.length ++ text.drop pattern.length :=
      (List.take_append_drop _ text).symm
    have dropped := dropStart?_eq_some_iff.mpr ⟨text.take pattern.length, split, occurs⟩
    rw [missing] at dropped
    cases dropped
  · intro absent
    rw [Option.eq_none_iff_forall_ne_some]
    intro rest dropped
    obtain ⟨found, shape, same⟩ := dropStart?_eq_some_iff.mp dropped
    rw [shape] at absent
    exact absent (occursAt_of_sameText same rest)

theorem OccursAt.within {pattern text : List Char} {place : Nat}
    (occurs : OccursAt pattern text place) (nonempty : pattern ≠ []) :
    place + pattern.length ≤ text.length := by
  have lengths := SameText.length_eq occurs
  have positive := List.length_pos_iff.mpr nonempty
  rw [List.length_take, List.length_drop] at lengths
  omega

/-- Character by character an occurrence looks like its pattern. -/
theorem OccursAt.fold_eq {pattern text : List Char} {place offset : Nat}
    (occurs : OccursAt pattern text place) (inside : offset < pattern.length) :
    text[place + offset]?.map fold = pattern[offset]?.map fold := by
  have characters := congrArg (fun codes : List Nat => codes[offset]?) occurs
  simpa [List.getElem?_take, inside, eq_comm] using characters

/-- An occurrence begins with the only opening brace that a key without braces has. -/
theorem occurrences_apart {key text : List Char} {place later : Nat} (keyFree : BraceFree key)
    (first : OccursAt (braced key) text place) (second : OccursAt (braced key) text later)
    (order : place < later) :
    place + (braced key).length ≤ later := by
  apply Nat.le_of_not_lt
  intro overlapping
  obtain ⟨offset, rfl⟩ : ∃ offset, later = place + (offset + 1) := ⟨later - place - 1, by omega⟩
  have opening := second.fold_eq (show 0 < (braced key).length by simp [braced])
  have inner := first.fold_eq (show offset + 1 < (braced key).length by omega)
  rw [Nat.add_zero, inner, braced, List.cons_append, List.getElem?_cons_succ,
    List.getElem?_cons_zero, Option.map_some] at opening
  obtain ⟨c, found, same⟩ := Option.map_eq_some_iff.mp opening
  have brace : sameChar '\x7b' c = decide (c = '\x7b') := sameChar_brace (by decide) c
  have shut : c = '\x7b' := by simpa [sameChar, same] using brace
  have noOpen : '\x7b' ∉ key ++ ['\x7d'] := by simpa using keyFree.not_mem_open
  rw [shut] at found
  exact noOpen (List.mem_of_getElem? found)

/-- Before an occurrence a pass copies. -/
theorem pieces_gap {key gap rest : List Char}
    (free : ∀ place < gap.length, ¬ OccursAt (braced key) (gap ++ rest) place) :
    pieces key (gap ++ rest) = gap.map .copied ++ pieces key rest := by
  induction gap with
  | nil => rfl
  | cons c gap induction =>
      have head : ¬ OccursAt (braced key) (c :: (gap ++ rest)) 0 := free 0 (by simp)
      have tail : ∀ place < gap.length, ¬ OccursAt (braced key) (gap ++ rest) place := by
        intro place bound occurs
        exact free (place + 1) (by simpa using bound) (occursAt_cons_iff.mpr occurs)
      rw [List.cons_append, pieces_copied (dropStart?_eq_none_iff.mpr head), induction tail,
        List.map_cons, List.cons_append]

/-- A text cut into gaps with an occurrence behind each but the last; gaps may be empty. -/
inductive Cut where
  | last (gap : List Char)
  | next (gap found : List Char) (rest : Cut)

namespace Cut

def source : Cut → List Char
  | last gap => gap
  | next gap found rest => gap ++ (found ++ rest.source)

/-- The value, as it stands, in place of each occurrence. -/
def filled (value : List Char) : Cut → List Char
  | last gap => gap
  | next gap _ rest => gap ++ (value ++ rest.filled value)

def occurrences : Cut → List (List Char)
  | last _ => []
  | next _ found rest => found :: rest.occurrences

/-- The places at which the occurrences begin. -/
def starts : Cut → List Nat
  | last _ => []
  | next gap found rest => gap.length :: rest.starts.map (gap.length + found.length + ·)

/-- The places inside the gaps. -/
def InGap : Cut → Nat → Prop
  | last gap, place => place < gap.length
  | next gap found rest, place =>
      place < gap.length ∨ ∃ further, place = gap.length + found.length + further ∧
        rest.InGap further

/-- The cut of a text by a search from the left for the key between braces. -/
structure Greedy (key text : List Char) (cut : Cut) : Prop where
  whole : cut.source = text
  found :
    ∀ found ∈ cut.occurrences, found.length = (braced key).length ∧ SameText (braced key) found
  gaps : ∀ place, cut.InGap place → ¬ OccursAt (braced key) text place

def pieces : Cut → List Piece
  | last gap => gap.map .copied
  | next gap found rest => gap.map .copied ++ .found found :: rest.pieces

theorem flatMap_replacement (value : List Char) (cut : Cut) :
    cut.pieces.flatMap (Piece.replacement value) = cut.filled value := by
  induction cut with
  | last gap => simp [pieces, filled, List.flatMap_map, Piece.replacement]
  | next gap found rest induction =>
      simp [pieces, filled, List.flatMap_append, List.flatMap_map, Piece.replacement, induction]

variable {key text : List Char} {cut : Cut}

theorem Greedy.onward {gap found : List Char} {rest : Cut}
    (greedy : (next gap found rest).Greedy key text) :
    rest.Greedy key rest.source := by
  refine ⟨rfl, ?_, ?_⟩
  · intro other member
    exact greedy.found other (List.mem_cons_of_mem _ member)
  · intro place inside occurs
    have shape : (gap ++ found) ++ rest.source = text := by
      rw [List.append_assoc]; exact greedy.whole
    have shifted := (occursAt_append_iff (gap ++ found) rest.source place).mpr occurs
    rw [shape, List.length_append] at shifted
    exact greedy.gaps _ (Or.inr ⟨place, rfl, inside⟩) shifted

/-- Wherever a text is cut so, a pass reads it along that cut. -/
theorem Greedy.pieces_eq (greedy : cut.Greedy key text) :
    Template.pieces key text = cut.pieces := by
  induction cut generalizing text with
  | last gap =>
      have whole : gap = text := greedy.whole
      have free : ∀ place < gap.length, ¬ OccursAt (braced key) (gap ++ []) place := by
        intro place bound
        rw [List.append_nil, whole]
        exact greedy.gaps place bound
      have copied := pieces_gap free
      rw [List.append_nil, pieces_nil, List.append_nil, whole] at copied
      rw [copied, pieces, whole]
  | next gap found rest induction =>
      have whole : gap ++ (found ++ rest.source) = text := greedy.whole
      have free :
          ∀ place < gap.length, ¬ OccursAt (braced key) (gap ++ (found ++ rest.source)) place := by
        intro place bound
        rw [whole]
        exact greedy.gaps place (Or.inl bound)
      have same := (greedy.found found (List.mem_cons_self ..)).2
      rw [← whole, pieces_gap free, pieces_occurrence same, induction greedy.onward, pieces]

/-- A character more at the beginning of the first gap. -/
def widened (c : Char) : Cut → Cut
  | last gap => last (c :: gap)
  | next gap found rest => next (c :: gap) found rest

def ofPieces : List Piece → Cut
  | [] => last []
  | .copied c :: rest => (ofPieces rest).widened c
  | .found text :: rest => next [] text (ofPieces rest)

theorem ofPieces_pieces (cut : Cut) : ofPieces cut.pieces = cut := by
  -- Within each gap the induction is on its characters, as they come back one by one.
  induction cut with
  | last gap =>
      induction gap with
      | nil => rfl
      | cons c gap narrower => exact congrArg (widened c) narrower
  | next gap found rest induction =>
      induction gap with
      | nil => exact congrArg (next [] found) induction
      | cons c gap narrower => exact congrArg (widened c) narrower

/-- A text has one such cut. -/
theorem Greedy.unique {other : Cut} (greedy : cut.Greedy key text)
    (otherGreedy : other.Greedy key text) :
    other = cut := by
  rw [← ofPieces_pieces cut, ← ofPieces_pieces other, ← greedy.pieces_eq, otherGreedy.pieces_eq]

theorem inGap_of_widened {c : Char} {place : Nat} (inside : (cut.widened c).InGap (place + 1)) :
    cut.InGap place := by
  cases cut with
  | last gap => exact Nat.lt_of_succ_lt_succ inside
  | next gap found rest =>
      rcases inside with before | ⟨further, shape, later⟩
      · exact Or.inl (Nat.lt_of_succ_lt_succ before)
      · have shifted : place = gap.length + found.length + further := by
          rw [List.length_cons] at shape
          omega
        exact Or.inr ⟨further, shifted, later⟩

theorem Greedy.widened {c : Char} (greedy : cut.Greedy key text)
    (absent : ¬ OccursAt (braced key) (c :: text) 0) :
    (cut.widened c).Greedy key (c :: text) := by
  have source : (cut.widened c).source = c :: cut.source := by cases cut <;> rfl
  have occurrences : (cut.widened c).occurrences = cut.occurrences := by cases cut <;> rfl
  refine ⟨?_, ?_, ?_⟩
  · rw [source, greedy.whole]
  · rw [occurrences]
    exact greedy.found
  · intro place inside
    cases place with
    | zero => exact absent
    | succ place =>
        rw [occursAt_cons_iff]
        exact greedy.gaps place (inGap_of_widened inside)

theorem Greedy.behind {found : List Char} (same : SameText (braced key) found)
    (greedy : cut.Greedy key text) :
    (next [] found cut).Greedy key (found ++ text) := by
  refine ⟨congrArg (found ++ ·) greedy.whole, ?_, ?_⟩
  · intro other member
    rcases List.mem_cons.mp member with rfl | later
    · exact ⟨same.length_eq.symm, same⟩
    · exact greedy.found other later
  · intro place inside
    rcases inside with impossible | ⟨further, rfl, later⟩
    · exact absurd impossible (Nat.not_lt_zero place)
    · rw [List.length_nil, Nat.zero_add, occursAt_append_iff]
      exact greedy.gaps further later

/-- The pieces of a pass are such a cut. -/
theorem greedy_ofPieces (key text : List Char) :
    (ofPieces (Template.pieces key text)).Greedy key text := by
  fun_induction Template.pieces key text with
  | case1 text rest dropped induction =>
      obtain ⟨found, rfl, same⟩ := dropStart?_eq_some_iff.mp dropped
      rw [take_occurrence same]
      exact induction.behind same
  | case2 missing =>
      refine ⟨rfl, ?_, ?_⟩
      · intro found member
        cases member
      · intro place inside
        exact absurd inside (Nat.not_lt_zero place)
  | case3 c rest missing induction =>
      exact induction.widened (dropStart?_eq_none_iff.mp missing)

theorem Greedy.occursAt_starts {place : Nat} (greedy : cut.Greedy key text)
    (start : place ∈ cut.starts) :
    OccursAt (braced key) text place := by
  induction cut generalizing text place with
  | last gap => cases start
  | next gap found rest induction =>
      have whole : gap ++ (found ++ rest.source) = text := greedy.whole
      have same := (greedy.found found (List.mem_cons_self ..)).2
      rw [← whole]
      rcases List.mem_cons.mp start with rfl | later
      · exact (occursAt_append_iff gap _ 0).mpr (occursAt_of_sameText same _)
      · obtain ⟨further, member, rfl⟩ := List.mem_map.mp later
        rw [← List.append_assoc, ← List.length_append, occursAt_append_iff]
        exact induction greedy.onward member

/-- Every place of the text lies in a gap or in an occurrence. -/
theorem inGap_or_covered {place width : Nat} (bound : place < cut.source.length)
    (widths : ∀ found ∈ cut.occurrences, found.length = width) :
    cut.InGap place ∨ ∃ start ∈ cut.starts, start ≤ place ∧ place < start + width := by
  induction cut generalizing place with
  | last gap => exact Or.inl bound
  | next gap found rest induction =>
      have foundWidth : found.length = width := widths found (List.mem_cons_self ..)
      by_cases before : place < gap.length
      · exact Or.inl (Or.inl before)
      by_cases inside : place < gap.length + width
      · exact Or.inr ⟨gap.length, List.mem_cons_self .., by omega, inside⟩
      obtain ⟨further, rfl⟩ :=
        Nat.exists_eq_add_of_le (show gap.length + found.length ≤ place by omega)
      have furtherBound : further < rest.source.length := by
        simp only [source, List.length_append] at bound
        omega
      have onward :=
        induction furtherBound (fun other member => widths other (List.mem_cons_of_mem _ member))
      rcases onward with inGap | ⟨start, member, lower, upper⟩
      · exact Or.inl (Or.inr ⟨further, rfl, inGap⟩)
      · have shifted := List.mem_map_of_mem (f := (gap.length + found.length + ·)) member
        exact Or.inr ⟨_, List.mem_cons_of_mem _ shifted, by omega, by omega⟩

/-- Without braces in the key a pass finds every occurrence. -/
theorem Greedy.occursAt_iff {place : Nat} (greedy : cut.Greedy key text) (keyFree : BraceFree key) :
    OccursAt (braced key) text place ↔ place ∈ cut.starts := by
  constructor
  · intro occurs
    have within := occurs.within (show braced key ≠ [] by simp [braced])
    have bound : place < cut.source.length := by
      rw [greedy.whole]
      rw [braced_length] at within
      omega
    have covered := inGap_or_covered bound (fun found member => (greedy.found found member).1)
    rcases covered with inside | ⟨start, member, lower, upper⟩
    · exact absurd occurs (greedy.gaps place inside)
    · have first := greedy.occursAt_starts member
      by_cases same : start = place
      · exact same ▸ member
      · have apart := occurrences_apart keyFree first occurs (by omega)
        omega
  · exact greedy.occursAt_starts

end Cut

/-- One pass writes the value, as it stands, for the occurrences of one cut of the text: occurrences
look like the braced key up to case, none begins inside a gap, and no other cut is so. Without
braces in the key these are all occurrences in the text, and none overlaps another. -/
theorem pass_replaces_from_the_left (rule : Rule) (text : List Char) :
    ∃ cut : Cut, cut.Greedy rule.key text ∧
      (∀ other : Cut, other.Greedy rule.key text → other = cut) ∧
      Substitution.apply [rule] text = cut.filled rule.value ∧
      (BraceFree rule.key →
        (∀ place, OccursAt (braced rule.key) text place ↔ place ∈ cut.starts) ∧
          ∀ place later,
            OccursAt (braced rule.key) text place → OccursAt (braced rule.key) text later →
              place < later → place + (braced rule.key).length ≤ later) := by
  have greedy := Cut.greedy_ofPieces rule.key text
  refine ⟨Cut.ofPieces (pieces rule.key text), greedy, ?_, ?_, ?_⟩
  · intro other otherGreedy
    exact greedy.unique otherGreedy
  · calc Substitution.apply [rule] text
        = (pieces rule.key text).flatMap (Piece.replacement rule.value) := rfl
      _ = (Cut.ofPieces (pieces rule.key text)).pieces.flatMap (Piece.replacement rule.value) := by
          rw [← greedy.pieces_eq]
      _ = (Cut.ofPieces (pieces rule.key text)).filled rule.value := Cut.flatMap_replacement _ _
  · intro keyFree
    refine ⟨fun place => greedy.occursAt_iff keyFree, ?_⟩
    intro place later first second order
    exact occurrences_apart keyFree first second order

/-- With a closing and an opening brace as its key a rule finds two occurrences here that have a
pair of braces in common. The first is taken, and the value is no pattern of its own. -/
example : Substitution.apply [⟨['\x7d', '\x7b'], "$0".toList⟩] "\x7b\x7d\x7b\x7d\x7b\x7d".toList =
    "$0\x7b\x7d".toList := by decide +kernel

end MessageCatalog.Template
