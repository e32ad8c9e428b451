import MessageCatalog.Proofs.Text.CaseFold
import MessageCatalog.Text.Blank

/-!
Lower case within ASCII. It changes nothing but letters, so whatever holds of no letter sees nothing
of it, and apart from the long `ſ` and the Kelvin sign it is all that case folding does to a text
that ends up in ASCII.
-/

namespace MessageCatalog.Text

theorem isAlpha_iff (c : Char) :
    c.isAlpha = true ↔ 0x41 ≤ c.toNat ∧ c.toNat ≤ 0x5A ∨ 0x61 ≤ c.toNat ∧ c.toNat ≤ 0x7A := by
  change (decide (c.val ≥ 'A'.val ∧ c.val ≤ 'Z'.val) || decide (c.val ≥ 'a'.val) &&
    decide (c.val ≤ 'z'.val)) = true ↔ _
  simp [UInt32.le_iff_toNat_le, ← Char.toNat_val]

theorem toNat_toLower (c : Char) :
    c.toLower.toNat = if 0x41 ≤ c.toNat ∧ c.toNat ≤ 0x5A then c.toNat + 0x20 else c.toNat := by
  have bounds : c.val ≥ 'A'.val ∧ c.val ≤ 'Z'.val ↔ 0x41 ≤ c.toNat ∧ c.toNat ≤ 0x5A := by
    simp [UInt32.le_iff_toNat_le, ← Char.toNat_val]
  by_cases upper : 0x41 ≤ c.toNat ∧ c.toNat ≤ 0x5A
  · have lowered : c.toLower.val = c.val + 0x20 := congrArg Char.val (dif_pos (bounds.mpr upper))
    rw [if_pos upper, ← Char.toNat_val, lowered, UInt32.toNat_add]
    apply Nat.mod_eq_of_lt
    change c.toNat + 0x20 < 2 ^ 32
    omega
  · have kept : c.toLower = c := dif_neg fun capital => upper (bounds.mp capital)
    rw [if_neg upper, kept]

theorem toLower_toLower (c : Char) : c.toLower.toLower = c.toLower := by
  have lowered := toNat_toLower c
  have settled : ¬ (0x41 ≤ c.toLower.toNat ∧ c.toLower.toNat ≤ 0x5A) := by
    split at lowered <;> omega
  apply Char.toNat_inj.mp
  rw [toNat_toLower c.toLower, if_neg settled]

theorem isAlpha_toLower (c : Char) : c.toLower.isAlpha = c.isAlpha := by
  have lowered := toNat_toLower c
  rw [Bool.eq_iff_iff, isAlpha_iff, isAlpha_iff]
  split at lowered <;> omega

/-- What is no letter has no case. -/
theorem toLower_of_no_letter {c : Char} (other : c.isAlpha = false) : c.toLower = c := by
  have outside : ¬ (c.isAlpha = true) := by rw [other]; decide
  rw [isAlpha_iff] at outside
  apply Char.toNat_inj.mp
  rw [toNat_toLower, if_neg (fun upper => outside (Or.inl upper))]

/-- A test that no letter passes is blind to case. -/
theorem test_toLower {test : Char → Bool} (noLetter : ∀ c, c.isAlpha = true → test c = false)
    (c : Char) :
    test c.toLower = test c := by
  by_cases letter : c.isAlpha = true
  · have lowered : c.toLower.isAlpha = true := by rw [isAlpha_toLower, letter]
    rw [noLetter c letter, noLetter c.toLower lowered]
  · rw [toLower_of_no_letter (Bool.not_eq_true _ ▸ letter)]

theorem not_isBlank_of_letter (c : Char) (letter : c.isAlpha = true) : isBlank c = false := by
  rw [isAlpha_iff] at letter
  rw [← Bool.not_eq_true]
  simp only [isBlank, Bool.or_eq_true, Bool.and_eq_true, decide_eq_true_eq, beq_iff_eq]
  omega

theorem fold_of_ascii (c : Char) (ascii : c.toNat < 0x80) : fold c = c.toLower.toNat := by
  simp only [fold, foldCode, ascii, if_true, toNat_toLower, Bool.and_eq_true, decide_eq_true_eq]

/-- Outside of `s` and `k`, only its two cases are the same as a small ASCII character. -/
theorem fold_eq_iff_lower (c : Char) {sign : Char} (ascii : sign.toNat < 0x80)
    (small : sign.toLower = sign) (noForeign : sign ≠ 's' ∧ sign ≠ 'k') :
    fold c = fold sign ↔ c.toLower = sign := by
  rw [fold_of_ascii sign ascii, small]
  by_cases native : c.toNat < 0x80
  · rw [fold_of_ascii c native, Char.toNat_inj]
  · have foreign := fold_code_of_foreign c.toNat (by omega)
    have unlike : fold c ≠ sign.toNat := by
      intro same
      have letter : sign.toNat = 's'.toNat ∨ sign.toNat = 'k'.toNat := by
        rw [← same]
        exact foreign.resolve_left (by rw [← fold, same]; omega)
      rcases letter with letter | letter
      · exact noForeign.1 (Char.toNat_inj.mp letter)
      · exact noForeign.2 (Char.toNat_inj.mp letter)
    have kept : c.toLower.toNat = c.toNat := by
      rw [toNat_toLower, if_neg (by omega)]
    constructor
    · exact fun same => absurd same unlike
    · intro same
      rw [← same, kept] at ascii
      omega

/-- An ASCII character that is no letter is the only character with its folding. -/
theorem fold_eq_iff_of_no_letter (c : Char) {sign : Char} (ascii : sign.toNat < 0x80)
    (noLetter : sign.isAlpha = false) :
    fold c = fold sign ↔ c = sign := by
  have noForeign : sign ≠ 's' ∧ sign ≠ 'k' := by
    constructor
    all_goals
      intro letter
      rw [letter] at noLetter
      cases noLetter
  rw [fold_eq_iff_lower c ascii (toLower_of_no_letter noLetter) noForeign]
  constructor
  · intro lowered
    have other : c.isAlpha = false := by rw [← isAlpha_toLower, lowered, noLetter]
    rw [← lowered, toLower_of_no_letter other]
  · intro same
    rw [same, toLower_of_no_letter noLetter]

theorem sameText_iff_lower {start : List Char}
    (plain : ∀ sign ∈ start, sign.toNat < 0x80 ∧ sign.toLower = sign ∧ sign ≠ 's' ∧ sign ≠ 'k')
    (text : List Char) : SameText start text ↔ text.map Char.toLower = start := by
  induction start generalizing text with
  | nil => simp [SameText]
  | cons sign start induction =>
      obtain ⟨⟨ascii, small, noForeign⟩, others⟩ := List.forall_mem_cons.mp plain
      cases text with
      | nil => simp [SameText]
      | cons c text =>
          have first := fold_eq_iff_lower c ascii small noForeign
          have rest := induction others text
          rw [SameText] at rest ⊢
          rw [List.map_cons, List.map_cons, List.map_cons, List.cons.injEq, List.cons.injEq, rest,
            ← first, eq_comm]

end MessageCatalog.Text
