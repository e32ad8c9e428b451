import Mathlib.Tactic.NormNum
import MessageCatalog.Text.Digits

/-!
Runs of decimal digits and the numbers they write.
-/

namespace MessageCatalog.Text

def DigitsOnly (text : List Char) : Prop := ∀ c ∈ text, isDigit c = true

theorem digitValue?_of_isDigit {c : Char} (digit : isDigit c = true) :
    digitValue? 10 c = some (c.toNat - '0'.toNat) := by
  have bound : c.toNat - '0'.toNat < 10 := by
    simp only [isDigit, Bool.and_eq_true, decide_eq_true_eq, Char.le_def, UInt32.le_iff_toNat_le]
      at digit
    have upper : c.toNat ≤ 57 := digit.2
    change c.toNat - 48 < 10
    omega
  rw [isDigit] at digit
  simp only [digitValue?, digit, if_true, bound]

theorem isDigit_of_digitValue? {c : Char} {value : Nat} (read : digitValue? 10 c = some value) :
    isDigit c = true := by
  by_contra other
  rw [isDigit] at other
  have large : ¬ (if 'a' ≤ c && c ≤ 'f' then c.toNat - 'a'.toNat + 10
      else if 'A' ≤ c && c ≤ 'F' then c.toNat - 'A'.toNat + 10 else 16) < 10 := by
    split_ifs <;> omega
  simp only [digitValue?, if_neg other, if_neg large] at read
  cases read

theorem readDigitsFrom_eq {digits : List Char} (only : DigitsOnly digits) (start : Nat) :
    readDigitsFrom 10 start digits = some (Nat.ofDigitChars 10 digits start) := by
  induction digits generalizing start with
  | nil => rfl
  | cons c rest induction =>
      obtain ⟨digit, others⟩ := List.forall_mem_cons.mp only
      have onward := induction others (10 * start + (c.toNat - '0'.toNat))
      rw [Nat.ofDigitChars_cons, ← onward, readDigitsFrom, List.foldlM_cons,
        digitValue?_of_isDigit digit]
      rfl

theorem digitsOnly_toDigits (number : Nat) : DigitsOnly (Nat.toDigits 10 number) :=
  fun _ member => Nat.isDigit_of_mem_toDigits (by norm_num) le_rfl member

theorem digitsOnly_of_readDigitsFrom {digits : List Char} {start value : Nat}
    (read : readDigitsFrom 10 start digits = some value) : DigitsOnly digits := by
  induction digits generalizing start with
  | nil => exact List.forall_mem_nil _
  | cons c rest induction =>
      rw [readDigitsFrom, List.foldlM_cons, Option.bind_eq_bind, Option.bind_eq_some_iff] at read
      obtain ⟨next, first, onward⟩ := read
      obtain ⟨digit, valued, _⟩ := Option.map_eq_some_iff.mp first
      exact List.forall_mem_cons.mpr ⟨isDigit_of_digitValue? valued, induction onward⟩

theorem readDigits?_toDigits (number : Nat) :
    readDigits? 10 (Nat.toDigits 10 number) = some number := by
  have some_digit : (Nat.toDigits 10 number).isEmpty = false := by simp
  rw [readDigits?, some_digit, readDigitsFrom_eq (digitsOnly_toDigits number),
    Nat.ofDigitChars_ten_toDigits]
  rfl

/-- A number other than zero is not written with a zero first. -/
theorem toDigits_leads {number : Nat} (nonzero : number ≠ 0) :
    ∃ first more, Nat.toDigits 10 number = first :: more ∧ first ≠ '0' := by
  induction number using Nat.strongRecOn with
  | ind number induction =>
      by_cases small : number < 10
      · refine ⟨number.digitChar, [], Nat.toDigits_of_lt_base small, ?_⟩
        exact (by decide : ∀ digit < 10, digit ≠ 0 → digit.digitChar ≠ '0') number small nonzero
      · obtain ⟨first, more, shape, leads⟩ := induction (number / 10) (by omega) (by omega)
        refine ⟨first, more ++ [(number % 10).digitChar], ?_, leads⟩
        rw [Nat.toDigits_of_base_le (by norm_num) (by omega), shape, List.cons_append]

end MessageCatalog.Text
