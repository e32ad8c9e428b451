import Mathlib.Data.String.Basic

/-!
The byte order of text. Text compares like the bytes of its UTF-8 form, first byte first: the
leading byte of a longer form is greater, and forms of one length hold the digits of the code point,
highest first.
-/

namespace MessageCatalog.Text

/-- Order by the bytes of the UTF-8 form. -/
def ByteLess (left right : String) : Prop := left.toUTF8.data.toList < right.toUTF8.data.toList

theorem byte_lt_iff (left right : Nat) (leftSmall : left < 256) (rightSmall : right < 256) :
    UInt8.ofNat left < UInt8.ofNat right ↔ left < right := by
  rw [UInt8.lt_iff_toNat_lt, UInt8.toNat_ofNat', UInt8.toNat_ofNat', Nat.mod_eq_of_lt leftSmall,
    Nat.mod_eq_of_lt rightSmall]

theorem byte_eq_iff (left right : Nat) (leftSmall : left < 256) (rightSmall : right < 256) :
    UInt8.ofNat left = UInt8.ofNat right ↔ left = right := by
  rw [← UInt8.toNat_inj, UInt8.toNat_ofNat', UInt8.toNat_ofNat', Nat.mod_eq_of_lt leftSmall,
    Nat.mod_eq_of_lt rightSmall]

theorem digits_lt {left right : Nat} (less : left < right) :
    left / 64 < right / 64 ∨ left / 64 = right / 64 ∧ left % 64 < right % 64 := by omega

/-- The longest form holds four digits to the base 64. -/
theorem four_digits (code : Nat) (bound : code < 0x110000) :
    code / 262144 % 8 = code / 64 / 64 / 64 ∧ code / 4096 % 64 = code / 64 / 64 % 64 := by omega

theorem code_bound (c : Char) : c.val.toNat < 0x110000 := by
  have := c.valid
  simp only [UInt32.isValidChar, Nat.isValidChar] at this
  omega

/-- The forms of different characters are ordered like them, whatever follows. -/
theorem encode_lt {c d : Char} (less : c.val.toNat < d.val.toNat) (behind after : List UInt8) :
    String.utf8EncodeChar c ++ behind < String.utf8EncodeChar d ++ after := by
  have leftDigits := four_digits _ (code_bound c)
  have rightDigits := four_digits _ (code_bound d)
  have bound := code_bound d
  simp only [String.utf8EncodeChar, leftDigits, rightDigits]
  generalize c.val.toNat = v at *
  generalize d.val.toNat = w at *
  clear leftDigits rightDigits
  have last := digits_lt less
  have third := fun less : v / 64 < w / 64 => digits_lt less
  have second := fun less : v / 64 / 64 < w / 64 / 64 => digits_lt less
  split_ifs
  all_goals
    first
      | omega
      | simp (disch := omega) only [List.cons_append, List.cons_lt_cons_iff, byte_lt_iff,
          byte_eq_iff]
        omega

theorem form_lt {left right : List Char} (less : left < right) :
    left.flatMap String.utf8EncodeChar < right.flatMap String.utf8EncodeChar := by
  induction left generalizing right with
  | nil =>
      cases right with
      | nil => exact absurd less (List.lt_irrefl [])
      | cons d right =>
          have full : 0 < (String.utf8EncodeChar d).length := by
            rw [String.length_utf8EncodeChar]
            exact d.utf8Size_pos
          obtain ⟨byte, others, shape⟩ := List.exists_cons_of_length_pos full
          simp [List.flatMap_cons, shape]
  | cons c left induction =>
      cases right with
      | nil => exact absurd less (List.not_lt_nil _)
      | cons d right =>
          rw [List.flatMap_cons, List.flatMap_cons]
          rcases List.cons_lt_cons_iff.mp less with smaller | ⟨rfl, onward⟩
          · exact encode_lt smaller _ _
          · exact List.append_left_lt (induction onward)

theorem bytes_eq_form (text : String) :
    text.toUTF8.data.toList = text.toList.flatMap String.utf8EncodeChar := by
  rw [String.toUTF8_eq_toByteArray, ← String.utf8Encode_toList, List.utf8Encode,
    List.toList_data_toByteArray]

/-- The order of text is the order of its bytes. -/
theorem byte_less_iff (left right : String) : ByteLess left right ↔ left < right := by
  rw [ByteLess, bytes_eq_form, bytes_eq_form, String.lt_iff_toList_lt]
  constructor
  · intro less
    rcases lt_trichotomy left.toList right.toList with smaller | same | greater
    · exact smaller
    · rw [same] at less
      exact absurd less (List.lt_irrefl _)
    · exact absurd less (List.lt_asymm (form_lt greater))
  · exact form_lt

theorem byte_less_asymm {left right : String} (less : ByteLess left right) :
    ¬ ByteLess right left := by
  rw [byte_less_iff] at less ⊢
  exact lt_asymm less

end MessageCatalog.Text
