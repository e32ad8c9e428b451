import Mathlib.Data.List.TakeWhile
import MessageCatalog.Number.Basic
import MessageCatalog.Proofs.Number.Shortest
import MessageCatalog.Proofs.Text.Digits

/-!
The wire form of numbers reads back. A whole number is written by its digits; a double by the digits
of its shortest decimal, positionally or with an exponent, and in either form the numeral stands for
that decimal up to zeros at the end.
-/

namespace MessageCatalog

open Text

namespace Numeral

variable {text whole fraction tail : List Char} {power : Option Int}

theorem not_isDigit_dot : isDigit '.' = false := by decide

/-- A numeral without a point. -/
theorem ofUnsigned?_whole (negative : Bool) (only : DigitsOnly whole)
    (ends : ∀ c rest, tail = c :: rest → isDigit c = false ∧ c ≠ '.')
    (read : readPower tail = some power) :
    ofUnsigned? negative (whole ++ tail) = some ⟨negative, whole, none, power⟩ := by
  have stops : tail.takeWhile isDigit = [] ∧ tail.dropWhile isDigit = tail := by
    cases tail with
    | nil => exact ⟨rfl, rfl⟩
    | cons c rest =>
        have other := (ends c rest rfl).1
        simp [other]
  rw [ofUnsigned?, List.takeWhile_append_of_pos only, List.dropWhile_append_of_pos only, stops.1,
    stops.2, List.append_nil]
  split
  · next rest => exact absurd rfl (ends '.' rest rfl).2
  · rw [read]
    rfl

theorem ofUnsigned?_fraction (negative : Bool) (only : DigitsOnly whole)
    (fractionOnly : DigitsOnly fraction) (ends : ∀ c rest, tail = c :: rest → isDigit c = false)
    (read : readPower tail = some power) :
    ofUnsigned? negative (whole ++ '.' :: fraction ++ tail) =
      some ⟨negative, whole, some fraction, power⟩ := by
  have stops : tail.takeWhile isDigit = [] ∧ tail.dropWhile isDigit = tail := by
    cases tail with
    | nil => exact ⟨rfl, rfl⟩
    | cons c rest =>
        have other := ends c rest rfl
        simp [other]
  rw [ofUnsigned?, List.append_assoc, List.cons_append, List.takeWhile_append_of_pos only,
    List.dropWhile_append_of_pos only, List.takeWhile_cons_of_neg (by simp [not_isDigit_dot]),
    List.dropWhile_cons_of_neg (by simp [not_isDigit_dot])]
  change (readPower ((fraction ++ tail).dropWhile isDigit)).map
    (fun power =>
      (⟨negative, whole ++ [], some ((fraction ++ tail).takeWhile isDigit), power⟩ : Numeral)) = _
  rw [List.takeWhile_append_of_pos fractionOnly, List.dropWhile_append_of_pos fractionOnly, stops.1,
    stops.2, read, List.append_nil, List.append_nil]
  rfl

theorem ofUnsigned?_positional (negative : Bool) (only : DigitsOnly whole)
    (fractionOnly : DigitsOnly fraction) :
    ofUnsigned? negative (whole ++ '.' :: fraction) =
      some ⟨negative, whole, some fraction, none⟩ := by
  have parsed : ofUnsigned? negative (whole ++ '.' :: fraction ++ []) =
      some ⟨negative, whole, some fraction, none⟩ :=
    ofUnsigned?_fraction negative only fractionOnly
      (by intro c rest impossible; cases impossible) rfl
  rw [List.append_nil] at parsed
  exact parsed

theorem readPower_positive (number : Nat) :
    readPower ('e' :: '+' :: Nat.toDigits 10 number) = some (some (number : Int)) := by
  simp [readPower, readDigits?_toDigits]

theorem readPower_negative (number : Nat) :
    readPower ('e' :: '-' :: Nat.toDigits 10 number) = some (some (-(number : Int))) := by
  simp [readPower, readDigits?_toDigits]

/-- Nothing but a lone zero begins with a zero, and a point has a digit behind it. -/
structure FitsJson (numeral : Numeral) : Prop where
  whole : numeral.whole = ['0'] ∨ ∃ first more, numeral.whole = first :: more ∧ first ≠ '0'
  fraction : numeral.fraction ≠ some []

variable {numeral : Numeral} {negative : Bool}

theorem whole_of_ofUnsigned? (parsed : ofUnsigned? negative text = some numeral) :
    numeral.whole = text.takeWhile isDigit := by
  unfold ofUnsigned? at parsed
  dsimp only at parsed
  split at parsed
  · obtain ⟨power, _, rfl⟩ := Option.map_eq_some_iff.mp parsed
    rfl
  · obtain ⟨power, _, rfl⟩ := Option.map_eq_some_iff.mp parsed
    rfl

theorem FitsJson.accepted (fits : FitsJson numeral) : numeral.fitsJson = true := by
  have whole : wholeFits numeral.whole = true := by
    rcases fits.whole with zero | ⟨first, more, shape, leads⟩
    · rw [zero]
      rfl
    · rw [shape]
      cases more <;> simp [wholeFits, leads]
  have fraction : fractionFits numeral.fraction = true := by
    cases given : numeral.fraction with
    | none => rfl
    | some digits =>
        cases digits with
        | nil => exact absurd given fits.fraction
        | cons c more => rfl
  rw [fitsJson, whole, fraction, Bool.and_self]

theorem FitsJson.unsigned (fits : FitsJson numeral)
    (parsed : ofUnsigned? negative text = some numeral) (rest : List Char) :
    text ≠ '-' :: rest := by
  intro shape
  have whole := whole_of_ofUnsigned? parsed
  rw [shape, List.takeWhile_cons_of_neg (by decide)] at whole
  rcases fits.whole with zero | ⟨first, more, nonempty, _⟩
  · rw [zero] at whole
    cases whole
  · rw [nonempty] at whole
    cases whole

theorem ofJson?_of_unsigned (parsed : ofUnsigned? negative text = some numeral)
    (fits : FitsJson numeral) :
    ofJson? (if negative then '-' :: text else text) = some numeral := by
  cases negative with
  | true => simp [ofJson?, parsed, fits.accepted]
  | false =>
      rw [if_neg (by decide), ofJson?]
      · simp [parsed, fits.accepted]
      · exact fits.unsigned parsed

end Numeral

namespace Layout

variable {digits : List Char} {place : Int}

/-- The text is a numeral that stands for the digits with their first one at `place`. -/
def Spells (text digits : List Char) (place : Int) : Prop :=
  ∀ negative, ∃ numeral zeros, Numeral.ofUnsigned? negative text = some numeral ∧ numeral.FitsJson ∧
    numeral.negative = negative ∧ (numeral.fraction.isSome ∨ numeral.power.isSome) ∧
      numeral.toDecimal =
        ⟨Nat.ofDigitChars 10 digits 0 * 10 ^ zeros, place + 1 - digits.length - (zeros : Nat)⟩

theorem digitsOnly_zeros (count : Nat) : DigitsOnly (List.replicate count '0') := by
  intro c member
  rw [List.eq_of_mem_replicate member]
  decide

theorem toDecimal_fraction (negative : Bool) (power : Option Int) {whole fraction : List Char}
    (only : DigitsOnly whole) (fractionOnly : DigitsOnly fraction) :
    Numeral.toDecimal ⟨negative, whole, some fraction, power⟩ =
      ⟨Nat.ofDigitChars 10 (whole ++ fraction) 0, power.getD 0 - (fraction.length : Int)⟩ := by
  have both : DigitsOnly (whole ++ fraction) := List.forall_mem_append.mpr ⟨only, fractionOnly⟩
  rw [Numeral.toDecimal]
  simp only [Option.getD_some, readDigitsFrom_eq both]

theorem toDecimal_whole (negative : Bool) (power : Option Int) {whole : List Char}
    (only : DigitsOnly whole) :
    Numeral.toDecimal ⟨negative, whole, none, power⟩ =
      ⟨Nat.ofDigitChars 10 whole 0, power.getD 0⟩ := by
  rw [Numeral.toDecimal]
  simp [readDigitsFrom_eq only]

theorem ofDigitChars_zeros (digits : List Char) (zeros : Nat) :
    Nat.ofDigitChars 10 (digits ++ List.replicate zeros '0') 0 =
      Nat.ofDigitChars 10 digits 0 * 10 ^ zeros := by
  rw [Nat.ofDigitChars_append, Nat.ofDigitChars_replicate_zero, Nat.mul_comm]

theorem zeros_ofDigitChars (digits : List Char) (zeros : Nat) :
    Nat.ofDigitChars 10 (List.replicate zeros '0' ++ digits) 0 = Nat.ofDigitChars 10 digits 0 := by
  rw [Nat.ofDigitChars_append, Nat.ofDigitChars_replicate_zero, Nat.mul_zero]

/-- Positional text whose digits do not reach behind the point. -/
theorem spells_short (only : DigitsOnly digits)
    (leads : ∃ first more, digits = first :: more ∧ first ≠ '0') (up : 0 ≤ place)
    (short : (digits.length : Int) ≤ place + 1) :
    Spells (digits ++ List.replicate (place.toNat + 1 - digits.length) '0' ++ '.' :: ['0']) digits
      place := by
  intro negative
  let zeros := place.toNat + 1 - digits.length
  have whole : DigitsOnly (digits ++ List.replicate zeros '0') :=
    List.forall_mem_append.mpr ⟨only, digitsOnly_zeros zeros⟩
  have fraction : DigitsOnly ['0'] := digitsOnly_zeros 1
  refine ⟨_, zeros + 1, Numeral.ofUnsigned?_positional negative whole fraction,
    ⟨Or.inr ?_, by simp⟩, rfl, Or.inl rfl, ?_⟩
  · obtain ⟨first, more, rfl, nonzero⟩ := leads
    exact ⟨first, _, rfl, nonzero⟩
  · rw [toDecimal_fraction _ _ whole fraction]
    have joined :
        digits ++ List.replicate zeros '0' ++ ['0'] = digits ++ List.replicate (zeros + 1) '0' := by
      rw [List.append_assoc, List.replicate_succ']
    simp only [Option.getD_none, joined, ofDigitChars_zeros, List.length_singleton]
    congr 1
    omega

/-- Positional text with digits on both sides of the point. -/
theorem spells_long (only : DigitsOnly digits)
    (leads : ∃ first more, digits = first :: more ∧ first ≠ '0') (up : 0 ≤ place)
    (long : place + 1 < digits.length) :
    Spells (digits.take (place.toNat + 1) ++ '.' :: digits.drop (place.toNat + 1)) digits
      place := by
  intro negative
  have whole : DigitsOnly (digits.take (place.toNat + 1)) :=
    fun c member => only c (List.mem_of_mem_take member)
  have fraction : DigitsOnly (digits.drop (place.toNat + 1)) :=
    fun c member => only c (List.mem_of_mem_drop member)
  refine ⟨_, 0, Numeral.ofUnsigned?_positional negative whole fraction, ⟨Or.inr ?_, ?_⟩, rfl,
    Or.inl rfl, ?_⟩
  · obtain ⟨first, more, rfl, nonzero⟩ := leads
    exact ⟨first, _, rfl, nonzero⟩
  · simp only [ne_eq, Option.some.injEq, List.drop_eq_nil_iff]
    omega
  · rw [toDecimal_fraction _ _ whole fraction]
    simp only [Option.getD_none, List.take_append_drop, List.length_drop, pow_zero, Nat.mul_one]
    congr 1
    omega

/-- Positional text behind the point only. -/
theorem spells_small (only : DigitsOnly digits)
    (leads : ∃ first more, digits = first :: more ∧ first ≠ '0') (down : place < 0) :
    Spells ('0' :: '.' :: List.replicate ((-place).toNat - 1) '0' ++ digits) digits place := by
  intro negative
  have whole : DigitsOnly ['0'] := digitsOnly_zeros 1
  have fraction : DigitsOnly (List.replicate ((-place).toNat - 1) '0' ++ digits) :=
    List.forall_mem_append.mpr ⟨digitsOnly_zeros _, only⟩
  refine ⟨⟨negative, ['0'], some (List.replicate ((-place).toNat - 1) '0' ++ digits), none⟩, 0,
    Numeral.ofUnsigned?_positional negative whole fraction, ⟨Or.inl rfl, ?_⟩, rfl, Or.inl rfl, ?_⟩
  · obtain ⟨first, more, rfl, _⟩ := leads
    simp
  · rw [toDecimal_fraction _ _ whole fraction]
    have joined : ['0'] ++ (List.replicate ((-place).toNat - 1) '0' ++ digits) =
        List.replicate ((-place).toNat - 1 + 1) '0' ++ digits := by
      rw [← List.append_assoc, List.replicate_succ]
      rfl
    simp only [Option.getD_none, joined, zeros_ofDigitChars, List.length_append,
      List.length_replicate, pow_zero, Nat.mul_one]
    congr 1
    omega

/-- The exponent part of scientific text. -/
def powerText (place : Int) : List Char :=
  (if place < 0 then ['e', '-'] else ['e', '+']) ++ (natText place.natAbs).toList

theorem readPower_powerText (place : Int) :
    Numeral.readPower (powerText place) = some (some place) := by
  have digits : (natText place.natAbs).toList = Nat.toDigits 10 place.natAbs := by
    rw [natText, Nat.toString_eq_ofList_toDigits, String.toList_ofList]
  rw [powerText, digits]
  split
  · next down =>
      rw [List.cons_append, List.singleton_append, Numeral.readPower_negative]
      congr 2
      omega
  · next up =>
      rw [List.cons_append, List.singleton_append, Numeral.readPower_positive]
      congr 2
      omega

theorem powerText_ends (place : Int) :
    ∀ c rest, powerText place = c :: rest → isDigit c = false ∧ c ≠ '.' := by
  intro c rest shape
  unfold powerText at shape
  split at shape
  all_goals
    cases shape
    decide

theorem spells_scientific {first : Char} {more : List Char} (only : DigitsOnly (first :: more))
    (nonzero : first ≠ '0') :
    Spells (first :: (if more.isEmpty then [] else '.' :: more) ++ powerText place) (first :: more)
      place := by
  intro negative
  obtain ⟨digit, others⟩ := List.forall_mem_cons.mp only
  have whole : DigitsOnly [first] := by
    intro c member
    rw [List.mem_singleton.mp member]
    exact digit
  cases more with
  | nil =>
      have parsed := Numeral.ofUnsigned?_whole negative whole (powerText_ends place)
        (readPower_powerText place)
      refine ⟨_, 0, parsed, ⟨Or.inr ⟨first, [], rfl, nonzero⟩, by simp⟩, rfl, Or.inr rfl, ?_⟩
      rw [toDecimal_whole _ _ whole]
      simp
  | cons second rest =>
      have parsed := Numeral.ofUnsigned?_fraction negative whole others
        (fun c rest shape => (powerText_ends place c rest shape).1) (readPower_powerText place)
      refine ⟨_, 0, parsed, ⟨Or.inr ⟨first, [], rfl, nonzero⟩, by simp⟩, rfl, Or.inl rfl, ?_⟩
      rw [toDecimal_fraction _ _ whole others]
      simp

/-- The text of either form stands for its digits. -/
theorem write_spells (layout : Layout) (only : DigitsOnly digits)
    (leads : ∃ first more, digits = first :: more ∧ first ≠ '0') :
    Spells (layout.write digits place) digits place := by
  unfold write
  split
  · split
    · next up =>
        dsimp only
        by_cases short : (digits.length : Int) ≤ place + 1
        · have none_left : digits.drop (place.toNat + 1) = [] := List.drop_eq_nil_of_le (by omega)
          rw [none_left, List.take_of_length_le (by omega)]
          exact spells_short only leads up short
        · have some_left : (digits.drop (place.toNat + 1)).isEmpty = false := by
            simp only [List.isEmpty_eq_false_iff, ne_eq, List.drop_eq_nil_iff]
            omega
          have no_zeros : place.toNat + 1 - digits.length = 0 := by omega
          rw [some_left, no_zeros, List.replicate_zero, List.append_nil]
          exact spells_long only leads up (not_le.mp short)
    · next down => exact spells_small only leads (not_le.mp down)
  · obtain ⟨first, more, rfl, nonzero⟩ := leads
    have spelled : Spells _ (first :: more) place := spells_scientific only nonzero
    cases more with
    | nil => exact spelled
    | cons second rest =>
        dsimp only
        rw [List.append_assoc]
        exact spelled

end Layout

theorem dropTrailingZeros_spec (digits : List Char) :
    ∃ zeros, digits = dropTrailingZeros digits ++ List.replicate zeros '0' := by
  have all_zero : ∀ c ∈ digits.reverse.takeWhile (· == '0'), c = '0' := by
    intro c member
    simpa using List.mem_takeWhile_imp member
  refine ⟨(digits.reverse.takeWhile (· == '0')).length, ?_⟩
  calc digits = digits.reverse.reverse := digits.reverse_reverse.symm
    _ = (digits.reverse.takeWhile (· == '0') ++ digits.reverse.dropWhile (· == '0')).reverse := by
      rw [List.takeWhile_append_dropWhile]
    _ = dropTrailingZeros digits ++ (digits.reverse.takeWhile (· == '0')).reverse :=
        List.reverse_append
    _ = _ := by
        rw [List.eq_replicate_of_mem all_zero, List.reverse_replicate, List.length_replicate]

/-- Without the zeros at its end a number keeps its first digit and its digits up to a power of
ten. -/
theorem dropTrailingZeros_toDigits {number : Nat} (nonzero : number ≠ 0) :
    let digits := dropTrailingZeros (Nat.toDigits 10 number)
    ∃ zeros, DigitsOnly digits ∧ (∃ first more, digits = first :: more ∧ first ≠ '0') ∧
      number = Nat.ofDigitChars 10 digits 0 * 10 ^ zeros ∧
        (Nat.toDigits 10 number).length = digits.length + zeros := by
  intro digits
  obtain ⟨zeros, split⟩ := dropTrailingZeros_spec (Nat.toDigits 10 number)
  obtain ⟨first, more, shape, leads⟩ := toDigits_leads nonzero
  have only : DigitsOnly digits := fun c member =>
    digitsOnly_toDigits number c (split ▸ List.mem_append_left _ member)
  refine ⟨zeros, only, ?_, ?_, ?_⟩
  · have joined : first :: more = digits ++ List.replicate zeros '0' := shape.symm.trans split
    generalize digits = kept at joined ⊢
    cases kept with
    | nil =>
        cases zeros with
        | zero => cases joined
        | succ zeros =>
            cases joined
            exact absurd rfl leads
    | cons c rest =>
        cases joined
        exact ⟨_, _, rfl, leads⟩
  · rw [← Layout.ofDigitChars_zeros, ← split, Nat.ofDigitChars_ten_toDigits]
  · have count := congrArg List.length split
    rw [List.length_append, List.length_replicate] at count
    exact count

namespace Number

/-- The text is a numeral of JSON that is read as this number. -/
def ReadsFrom (value : Number) (text : List Char) : Prop :=
  ∃ numeral, Numeral.ofJson? text = some numeral ∧ ofNumeral? numeral = some value

theorem ofNumeral?_of_mark {numeral : Numeral}
    (marked : numeral.fraction.isSome ∨ numeral.power.isSome) :
    ofNumeral? numeral = (numeral.toBinary? .double).map double := by
  unfold ofNumeral?
  split
  · next noFraction noPower =>
      rw [noFraction, noPower] at marked
      simp at marked
  · rfl

/-- Text that stands for a decimal nearest to the magnitude of a double is read as that double. -/
theorem readsFrom_of_spells {value : Binary64} {text digits : List Char} {place : Int}
    (spelled : Layout.Spells text digits place)
    (nearest : Decimal.rank? .double ⟨Nat.ofDigitChars 10 digits 0, place + 1 - digits.length⟩ =
      some value.rank) :
    ReadsFrom (double value) (if value.negative then '-' :: text else text) := by
  obtain ⟨numeral, zeros, parsed, fits, sign, marked, decimal⟩ := spelled value.negative
  refine ⟨numeral, Numeral.ofJson?_of_unsigned parsed fits, ?_⟩
  have rank : numeral.toDecimal.rank? .double = some value.rank := by
    rw [decimal, Decimal.rank?_zeros, sub_add_cancel, nearest]
  have binary : numeral.toBinary? .double = some value := by
    rw [Numeral.toBinary?, rank, sign]
    simp [Binary.ofRank?, value.finite]
  rw [ofNumeral?_of_mark marked, binary]
  rfl

theorem spells_zero : Layout.Spells ['0', '.', '0'] [] (-2) := by
  intro negative
  have only : DigitsOnly ['0'] := Layout.digitsOnly_zeros 1
  refine ⟨⟨negative, ['0'], some ['0'], none⟩, 0, Numeral.ofUnsigned?_positional negative only only,
    ⟨Or.inl rfl, by simp⟩, rfl, Or.inl rfl, ?_⟩
  rw [Layout.toDecimal_fraction _ _ only only]
  rfl

theorem readsFrom_double (value : Binary64) : ReadsFrom (double value) value.wireText.toList := by
  rw [Binary64.wireText, Binary.text, String.toList_ofList]
  by_cases zero : value.rank = 0
  · rw [if_pos zero]
    exact readsFrom_of_spells spells_zero (congrArg some zero.symm)
  · have nearest :
        Decimal.rank? .double ⟨value.shortest.digits, value.shortest.exponent⟩ = some value.rank :=
      Binary.rank?_shortest zero
    have nonzero : value.shortest.digits ≠ 0 := by
      intro none_left
      rw [Decimal.rank?, if_pos none_left] at nearest
      exact zero (Option.some.inj nearest).symm
    rw [if_neg zero]
    dsimp only
    obtain ⟨zeros, only, leads, amount, count⟩ := dropTrailingZeros_toDigits nonzero
    generalize dropTrailingZeros (Nat.toDigits 10 value.shortest.digits) = digits at *
    refine readsFrom_of_spells (Layout.write_spells .double only leads) ?_
    rw [amount, Decimal.rank?_zeros] at nearest
    rw [← nearest]
    congr 2
    omega

theorem readsFrom_integer {value : Int} (fitting : fits value = true) :
    ReadsFrom (integer value) (intText value).toList := by
  have only := digitsOnly_toDigits value.natAbs
  have written : (intText value).toList =
      if decide (value < 0) then '-' :: Nat.toDigits 10 value.natAbs
      else Nat.toDigits 10 value.natAbs := by
    rw [intText]
    split
    · next negative => simp [natText, negative]
    · next natural => simp [natText, natural]
  have parsed : Numeral.ofUnsigned? (decide (value < 0)) (Nat.toDigits 10 value.natAbs) =
      some ⟨decide (value < 0), Nat.toDigits 10 value.natAbs, none, none⟩ := by
    have whole : Numeral.ofUnsigned? (decide (value < 0)) (Nat.toDigits 10 value.natAbs ++ []) =
        some ⟨decide (value < 0), Nat.toDigits 10 value.natAbs, none, none⟩ :=
      Numeral.ofUnsigned?_whole _ only (by simp) rfl
    rw [List.append_nil] at whole
    exact whole
  have fitsJson :
      Numeral.FitsJson ⟨decide (value < 0), Nat.toDigits 10 value.natAbs, none, none⟩ := by
    refine ⟨?_, by simp⟩
    by_cases zero : value.natAbs = 0
    · exact Or.inl (by rw [zero, Nat.toDigits_zero])
    · exact Or.inr (toDigits_leads zero)
  refine ⟨⟨decide (value < 0), Nat.toDigits 10 value.natAbs, none, none⟩, ?_, ?_⟩
  · rw [written]
    exact Numeral.ofJson?_of_unsigned parsed fitsJson
  · have magnitude :
        (readDigitsFrom 10 0 (Nat.toDigits 10 value.natAbs)).getD 0 = value.natAbs := by
      rw [readDigitsFrom_eq only, Nat.ofDigitChars_ten_toDigits]
      rfl
    have signed :
        (if decide (value < 0) then -(value.natAbs : Int) else (value.natAbs : Int)) = value := by
      simp only [decide_eq_true_eq]
      split <;> omega
    have notMinusZero : (decide (value < 0) && value.natAbs == 0) = false := by
      simp only [Bool.and_eq_false_iff, decide_eq_false_iff_not, beq_eq_false_iff_ne]
      omega
    simp only [ofNumeral?, magnitude, signed, fitting, notMinusZero]
    rfl

/-- The wire form of a number is read as that number. -/
theorem readsFrom_wireText {value : Number} (fitting : value.Fits) :
    value.ReadsFrom value.wireText.toList := by
  cases value with
  | integer value => exact readsFrom_integer fitting
  | double value => exact readsFrom_double value

end Number

end MessageCatalog
