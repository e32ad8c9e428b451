import MessageCatalog.Proofs.Template.Segment
import MessageCatalog.Proofs.Text.AsciiCase
import MessageCatalog.Template.Substitution

/-!
One replacement pass, segment by segment. A key without braces matches a slot with its name up to
case and nothing else, so the pass puts the value into exactly these slots and keeps all the rest,
stray braces included; a flat value leaves a flat text flat.
-/

namespace MessageCatalog.Template

open Text

theorem sameText_braced {key other : List Char} (same : SameText key other) :
    SameText (braced key) (braced other) :=
  SameText.append (SameText.append (SameText.refl ['\x7b']) same) (SameText.refl ['\x7d'])

theorem pieces_nil (key : List Char) : pieces key [] = [] := by
  have nothing : dropStart? (braced key) [] = none := by simp [braced, dropStart?]
  rw [pieces]
  split
  · next rest step => simp [nothing] at step
  · rfl

theorem pieces_found {key text rest : List Char}
    (found : dropStart? (braced key) text = some rest) :
    pieces key text = .found (text.take (key.length + 2)) :: pieces key rest := by
  rw [pieces]
  split
  · next other step =>
      rw [found] at step
      cases step
      rfl
  · next step =>
      rw [found] at step
      cases step

theorem take_occurrence {key found : List Char} (same : SameText (braced key) found)
    (rest : List Char) :
    (found ++ rest).take (key.length + 2) = found := by
  rw [← braced_length, same.length_eq, List.take_left]

theorem pieces_occurrence {key found : List Char} (same : SameText (braced key) found)
    (rest : List Char) :
    pieces key (found ++ rest) = .found found :: pieces key rest := by
  have dropped : dropStart? (braced key) (found ++ rest) = some rest :=
    dropStart?_eq_some_iff.mpr ⟨found, rfl, same⟩
  rw [pieces_found dropped, take_occurrence same]

theorem pieces_copied {key : List Char} {c : Char} {rest : List Char}
    (missing : dropStart? (braced key) (c :: rest) = none) :
    pieces key (c :: rest) = .copied c :: pieces key rest := by
  rw [pieces]
  split
  · next other step => simp [missing] at step
  · rfl

theorem sameChar_brace {brace : Char} (isOne : isBrace brace = true) (c : Char) :
    sameChar brace c = decide (c = brace) := by
  have signs : fold c = fold brace ↔ c = brace := by
    simp only [isBrace, Bool.or_eq_true, beq_iff_eq] at isOne
    rcases isOne with rfl | rfl
    all_goals exact fold_eq_iff_of_no_letter c (by decide) (by decide)
  rw [Bool.eq_iff_iff, sameChar, beq_iff_eq, decide_eq_true_eq, eq_comm, signs]

/-- Only an opening brace can begin an occurrence. -/
theorem pieces_cons_of_ne (key rest : List Char) {c : Char} (differs : c ≠ '\x7b') :
    pieces key (c :: rest) = .copied c :: pieces key rest := by
  have opens : isBrace '\x7b' = true := by decide
  apply pieces_copied
  simp [braced, dropStart?, sameChar_brace opens, differs]

theorem pieces_append_of_no_open (key left right : List Char) (noOpen : '\x7b' ∉ left) :
    pieces key (left ++ right) = left.map .copied ++ pieces key right := by
  induction left with
  | nil => rfl
  | cons c left induction =>
      have differs : c ≠ '\x7b' := (List.ne_of_not_mem_cons noOpen).symm
      rw [List.cons_append, pieces_cons_of_ne key _ differs,
        induction (List.not_mem_of_not_mem_cons noOpen), List.map_cons, List.cons_append]

theorem isBrace_congr {c d : Char} (same : fold c = fold d) : isBrace c = isBrace d := by
  have signs : ∀ sign : Char, isBrace sign = (sameChar '\x7b' sign || sameChar '\x7d' sign) := by
    intro sign
    rw [sameChar_brace (by decide), sameChar_brace (by decide), Bool.eq_iff_iff]
    simp [isBrace]
  rw [signs c, signs d, sameChar, sameChar, sameChar, sameChar, same]

theorem BraceFree.of_sameText {text other : List Char} (free : BraceFree text)
    (same : SameText text other) : BraceFree other := by
  intro c member
  have folded : fold c ∈ text.map fold := by
    rw [same]
    exact List.mem_map_of_mem member
  obtain ⟨d, inside, equal⟩ := List.mem_map.mp folded
  rw [← isBrace_congr equal]
  exact free d inside

theorem BraceFree.not_mem_open {text : List Char} (free : BraceFree text) : '\x7b' ∉ text := by
  intro member
  have := free _ member
  simp [isBrace] at this

/-- Names that end with a closing brace match as wholes or not at all. -/
theorem dropStart?_closed (key name rest : List Char) (keyFree : BraceFree key)
    (nameFree : BraceFree name) :
    dropStart? (key ++ ['\x7d']) (name ++ '\x7d' :: rest) =
      if sameText key name then some rest else none := by
  have closing : isBrace '\x7d' = true := by decide
  induction key generalizing name with
  | nil =>
      cases name with
      | nil => simp [dropStart?, sameChar_refl, sameText]
      | cons d name =>
          have free := (braceFree_cons.mp nameFree).1
          have differs : d ≠ '\x7d' := by
            intro same
            simp [same, closing] at free
          simp [dropStart?, sameChar_brace closing, differs, sameText]
  | cons c key induction =>
      have free := braceFree_cons.mp keyFree
      cases name with
      | nil =>
          have differs : '\x7d' ≠ c := by
            intro same
            simp [← same, closing] at free
          have apart : sameChar c '\x7d' = false := by
            rw [sameChar_symm, sameChar_brace closing]
            simp [differs.symm]
          simp [dropStart?, apart, sameText]
      | cons d name =>
          have onward := induction name free.2 (braceFree_cons.mp nameFree).2
          simp only [List.cons_append, dropStart?, onward, sameText, List.map_cons]
          by_cases same : fold c = fold d
          · simp [sameChar, same]
          · simp [sameChar, same]

theorem dropStart?_slot (key name rest : List Char) (keyFree : BraceFree key)
    (nameFree : BraceFree name) :
    dropStart? (braced key) (braced name ++ rest) =
      if sameText key name then some rest else none := by
  rw [braced_append, braced, List.cons_append, dropStart?, sameChar_refl, if_pos rfl]
  exact dropStart?_closed key name rest keyFree nameFree

/-- Behind an opening brace that no slot begins with, a key without braces does not occur. -/
theorem dropStart?_stray {key rest : List Char} (keyFree : BraceFree key)
    (missing : slotAt? rest = none) : dropStart? (braced key) ('\x7b' :: rest) = none := by
  rw [braced, List.cons_append, dropStart?, sameChar_refl, if_pos rfl,
    Option.eq_none_iff_forall_ne_some]
  intro after dropped
  obtain ⟨found, shape, same⟩ := dropStart?_eq_some_iff.mp dropped
  obtain ⟨name, closing, rfl, sameName, sameClosing⟩ := same.split
  obtain ⟨sign, rfl, equal⟩ := List.map_eq_singleton_iff.mp sameClosing.symm
  have closed : sign = '\x7d' := by
    have matching : sameChar '\x7d' sign = decide (sign = '\x7d') := sameChar_brace (by decide) sign
    rw [sameChar, equal] at matching
    simpa using matching
  have nameFree := keyFree.of_sameText sameName
  have slot := slotAt?_closed name after nameFree
  rw [shape, closed, List.append_assoc, List.singleton_append, slot] at missing
  cases missing

namespace Segment

/-- How a pass reads a segment. -/
def pieces (key : List Char) : Segment → List Piece
  | plain c => [.copied c]
  | slot name => if sameText key name then [.found (braced name)] else (braced name).map .copied

/-- What a pass makes of a segment: the segments of the value in place of a slot with the key's
name. -/
def pass (rule : Rule) : Segment → List Segment
  | plain c => [plain c]
  | slot name => if sameText rule.key name then segments rule.value else [slot name]

theorem pass_of_same {rule : Rule} {name : List Char} (same : SameText rule.key name) :
    (slot name).pass rule = segments rule.value := by
  rw [pass, if_pos ((sameText_iff _ _).mpr same)]

theorem pass_of_differs {rule : Rule} {name : List Char} (differs : ¬ SameText rule.key name) :
    (slot name).pass rule = [slot name] := by
  rw [pass, if_neg (mt (sameText_iff _ _).mp differs)]

theorem replacement_pieces (rule : Rule) (segment : Segment) :
    (segment.pieces rule.key).flatMap (Piece.replacement rule.value) =
      join (segment.pass rule) := by
  cases segment with
  | plain c => rfl
  | slot name =>
      by_cases same : sameText rule.key name
      · simp [pieces, pass, same, Piece.replacement, join_segments]
      · simp [pieces, pass, same, Piece.replacement, join, text, List.flatMap_map]

end Segment

theorem pieces_slot (key name rest : List Char) (keyFree : BraceFree key)
    (nameFree : BraceFree name) :
    pieces key (braced name ++ rest) = (Segment.slot name).pieces key ++ pieces key rest := by
  by_cases same : sameText key name
  · have occurrence : SameText (braced key) (braced name) :=
      sameText_braced ((sameText_iff key name).mp same)
    rw [pieces_occurrence occurrence, Segment.pieces, if_pos same, List.singleton_append]
  · have start := dropStart?_slot key name rest keyFree nameFree
    rw [if_neg same] at start
    have tail : '\x7b' ∉ name ++ ['\x7d'] := by
      simpa using nameFree.not_mem_open
    have shape : braced name ++ rest = '\x7b' :: (name ++ ['\x7d'] ++ rest) := by simp [braced]
    rw [shape] at start ⊢
    rw [pieces_copied start, pieces_append_of_no_open _ _ _ tail, Segment.pieces, if_neg same]
    simp [braced]

theorem pieces_segmentsFrom {key : List Char} (keyFree : BraceFree key) (passed : Nat)
    (text : List Char) :
    pieces key (text.drop passed) = (segmentsFrom passed text).flatMap (Segment.pieces key) := by
  fun_induction segmentsFrom passed text with
  | case1 => simpa using pieces_nil key
  | case2 passed c rest induction => simpa using induction
  | case3 rest name after found induction =>
      have shape : '\x7b' :: rest = braced name ++ after := by
        rw [slotAt?_sound found, braced_append]
      have behind : rest.drop (name.length + 1) = after := by simp [slotAt?_sound found]
      rw [List.drop_zero, shape, pieces_slot key name after keyFree (slotAt?_free found),
        List.flatMap_cons, ← induction, behind]
  | case4 rest missing induction =>
      rw [List.drop_zero, pieces_copied (dropStart?_stray keyFree missing), List.flatMap_cons,
        ← induction]
      rfl
  | case5 c rest differs induction =>
      rw [List.drop_zero, pieces_cons_of_ne key rest differs, List.flatMap_cons, ← induction]
      rfl

/-- A pass reads every text, flat or not, segment by segment. -/
theorem pieces_eq_flatMap {key : List Char} (keyFree : BraceFree key) (text : List Char) :
    pieces key text = (segments text).flatMap (Segment.pieces key) :=
  pieces_segmentsFrom keyFree 0 text

theorem replaceAll_eq_join {rule : Rule} (keyFree : BraceFree rule.key) (text : List Char) :
    replaceAll rule.key rule.value text = join ((segments text).flatMap (Segment.pass rule)) := by
  rw [replaceAll, pieces_eq_flatMap keyFree, List.flatMap_assoc, join, List.flatMap_assoc]
  congr 1
  funext segment
  exact segment.replacement_pieces rule

theorem replaceAll_join (rule : Rule) (keyFree : BraceFree rule.key)
    (row : List Segment) (clean : AllClean row) :
    replaceAll rule.key rule.value (join row) = join (row.flatMap (Segment.pass rule)) := by
  rw [replaceAll_eq_join keyFree, segments_join row clean]

/-- Passes that change nothing one by one change nothing together. -/
theorem apply_of_unchanged {rules : Substitution} {text : List Char}
    (unchanged : ∀ rule ∈ rules, replaceAll rule.key rule.value text = text) :
    Substitution.apply rules text = text := by
  induction rules with
  | nil => rfl
  | cons rule later induction =>
      have first := unchanged rule (by simp)
      have onward := induction (fun other member => unchanged other (by simp [member]))
      calc Substitution.apply (rule :: later) text
          = Substitution.apply later (replaceAll rule.key rule.value text) := rfl
        _ = Substitution.apply later text := by rw [first]
        _ = text := onward

theorem clean_pass (rule : Rule) (valueFlat : Flat rule.value) (row : List Segment)
    (clean : AllClean row) : AllClean (row.flatMap (Segment.pass rule)) := by
  intro segment member
  obtain ⟨source, inside, made⟩ := List.mem_flatMap.mp member
  have sourceClean := clean source inside
  cases source with
  | plain c =>
      simp only [Segment.pass, List.mem_singleton] at made
      exact made ▸ sourceClean
  | slot name =>
      simp only [Segment.pass] at made
      split at made
      · exact (flat_iff rule.value).mp valueFlat segment made
      · exact (List.mem_singleton.mp made) ▸ sourceClean

end MessageCatalog.Template
