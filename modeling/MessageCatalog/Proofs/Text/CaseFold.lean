import MessageCatalog.Text.CaseFold

/-!
What simple case folding does beyond ASCII, and a start looked for without regard to case. The only
foreign characters with an ASCII folding are the long `ſ` and the Kelvin sign.
-/

namespace MessageCatalog.Text

/-- A range of the folding table either stays beyond ASCII or is one of the two foreign letters. -/
theorem fold_range_target (range : FoldRange) (member : range ∈ foldRanges) :
    0x80 ≤ range.target ∨ range.target = 0x73 ∧ range.last = range.first ∨
      range.target = 0x6B ∧ range.last = range.first := by
  have all : ∀ range ∈ foldRanges,
      (decide (0x80 ≤ range.target) ||
        decide (range.target = 0x73) && decide (range.last = range.first) ||
        decide (range.target = 0x6B) && decide (range.last = range.first)) = true := by
    decide +kernel
  simpa [or_assoc] using all range member

/-- Beyond ASCII, only two characters fold to ASCII, and they fold to letters. -/
theorem fold_code_of_foreign (code : Nat) (foreign : 0x80 ≤ code) :
    0x80 ≤ foldCode code ∨ foldCode code = 0x73 ∨ foldCode code = 0x6B := by
  have beyond : ¬ code < 0x80 := by omega
  rw [foldCode, if_neg beyond]
  cases found : foldRanges.find? (·.contains code) with
  | none => exact Or.inl foreign
  | some range =>
      have inside := List.find?_some found
      simp only [FoldRange.contains, Bool.and_eq_true, decide_eq_true_eq] at inside
      rcases fold_range_target range (List.mem_of_find?_eq_some found) with high | letter | letter
      all_goals simp only
      all_goals omega

theorem dropStart?_eq_some_iff {start text rest : List Char} :
    dropStart? start text = some rest ↔ ∃ found, text = found ++ rest ∧ SameText start found := by
  constructor
  · intro dropped
    induction start generalizing text with
    | nil => exact ⟨[], by simpa [dropStart?] using dropped, rfl⟩
    | cons c start induction =>
        cases text with
        | nil => simp [dropStart?] at dropped
        | cons d text =>
            rw [dropStart?] at dropped
            split at dropped
            · next same =>
                obtain ⟨found, shape, matching⟩ := induction dropped
                have head : fold c = fold d := by simpa [sameChar] using same
                refine ⟨d :: found, by rw [shape, List.cons_append], ?_⟩
                rw [SameText, List.map_cons, List.map_cons, head, matching]
            · cases dropped
  · rintro ⟨found, rfl, matching⟩
    exact (dropStart?_append_iff matching.length_eq.symm).mpr matching

theorem SameText.split {left right whole : List Char} (same : SameText (left ++ right) whole) :
    ∃ first second, whole = first ++ second ∧ SameText left first ∧ SameText right second := by
  rw [SameText, List.map_append, eq_comm, List.map_eq_append_iff] at same
  obtain ⟨first, second, shape, sameFirst, sameSecond⟩ := same
  exact ⟨first, second, shape, sameFirst.symm, sameSecond.symm⟩

theorem SameText.take {text variant : List Char} (same : SameText text variant) (count : Nat) :
    SameText (text.take count) (variant.take count) := by
  rw [SameText, List.map_take, List.map_take, same]

/-- The search for a start is blind to case on both sides. -/
theorem dropStart?_alike {start other text variant rest : List Char}
    (sameStart : SameText start other) (same : SameText text variant)
    (dropped : dropStart? start text = some rest) :
    ∃ behind, dropStart? other variant = some behind ∧ SameText rest behind := by
  obtain ⟨found, rfl, matching⟩ := dropStart?_eq_some_iff.mp dropped
  obtain ⟨foundVariant, behind, rfl, sameFound, sameRest⟩ := same.split
  have matchingVariant := sameStart.symm.trans (matching.trans sameFound)
  exact ⟨behind, dropStart?_eq_some_iff.mpr ⟨foundVariant, rfl, matchingVariant⟩, sameRest⟩

theorem dropStart?_missing_alike {start other text variant : List Char}
    (sameStart : SameText start other) (same : SameText text variant)
    (missing : dropStart? start text = none) :
    dropStart? other variant = none := by
  rw [Option.eq_none_iff_forall_ne_some]
  intro rest dropped
  obtain ⟨behind, found, _⟩ := dropStart?_alike sameStart.symm same.symm dropped
  rw [missing] at found
  cases found

theorem dropStart?_congr {start other : List Char} (same : SameText start other)
    (text : List Char) :
    dropStart? start text = dropStart? other text := by
  apply Option.ext
  intro rest
  rw [dropStart?_eq_some_iff, dropStart?_eq_some_iff]
  apply exists_congr
  intro found
  apply and_congr_right
  intro _
  exact ⟨same.symm.trans, same.trans⟩

end MessageCatalog.Text
