import MessageCatalog.Proofs.Settings.Overriding
import MessageCatalog.Proofs.Text.Digits

/-!
Overriding settings one variable after the other. Which texts the limit and the flag take is stated
as they are written; where one of the two is refused, the settings hold what the variables before it
say, as if no other variable were set. Overriding again from the same environment changes nothing
more.
-/

namespace MessageCatalog

open Text

section Sizes

theorem le_ofDigitChars (digits : List Char) (start : Nat) :
    start ≤ Nat.ofDigitChars 10 digits start := by
  induction digits generalizing start with
  | nil => exact Nat.le_refl start
  | cons c rest induction =>
      have onward := induction (10 * start + (c.toNat - '0'.toNat))
      rw [Nat.ofDigitChars_cons]
      omega

/-- The reader stops at a number that is too large already, but no further digits would make it
smaller. -/
theorem readSizeFrom_eq_ok_iff {digits : List Char} {start value : Nat} (fits : start < sizeLimit) :
    readSizeFrom start digits = .ok value ↔
      DigitsOnly digits ∧ Nat.ofDigitChars 10 digits start = value ∧ value < sizeLimit := by
  induction digits generalizing start with
  | nil =>
      constructor
      · intro read
        cases read
        exact ⟨List.forall_mem_nil _, rfl, fits⟩
      · intro written
        exact congrArg Except.ok written.2.1
  | cons c rest induction =>
      by_cases digit : isDigit c = true
      · have valued := digitValue?_of_isDigit digit
        rw [DigitsOnly, List.forall_mem_cons, Nat.ofDigitChars_cons]
        simp only [readSizeFrom, valued]
        by_cases small : 10 * start + (c.toNat - '0'.toNat) < sizeLimit
        · rw [if_pos small, induction small, DigitsOnly]
          simp only [digit, true_and]
        · rw [if_neg small]
          have grows := le_ofDigitChars rest (10 * start + (c.toNat - '0'.toNat))
          constructor
          · intro read
            cases read
          · intro written
            omega
      · have none : digitValue? 10 c = Option.none := by
          rw [Option.eq_none_iff_forall_ne_some]
          exact fun value read => digit (isDigit_of_digitValue? read)
        constructor
        · intro read
          simp only [readSizeFrom, none] at read
          cases read
        · intro written
          exact absurd (written.1 c List.mem_cons_self) digit

/-- A size is written by one or more digits, perhaps behind a plus sign, and fits 64 bits. -/
def WritesSize (text : String) (value : Nat) : Prop :=
  ∃ digits, (text.toList = digits ∨ text.toList = '+' :: digits) ∧ digits ≠ [] ∧ DigitsOnly digits ∧
    Nat.ofDigitChars 10 digits 0 = value ∧ value < sizeLimit

theorem readSize_eq_ok_iff (text : String) (value : Nat) :
    readSize text = .ok value ↔ WritesSize text value := by
  have none : 0 < sizeLimit := by decide
  have noSign : ∀ {digits more : List Char}, DigitsOnly digits → digits ≠ '+' :: more := by
    intro digits more only signed
    have contrary := only '+' (signed ▸ List.mem_cons_self)
    revert contrary
    decide
  rw [readSize, WritesSize]
  split
  · next empty =>
      constructor
      · intro read
        cases read
      · intro written
        obtain ⟨digits, bare | signed, given, _⟩ := written
        · exact absurd (bare.symm.trans empty) given
        · cases empty.symm.trans signed
  · next sign =>
      constructor
      · intro read
        cases read
      · intro written
        obtain ⟨digits, bare | signed, given, only, _⟩ := written
        · exact absurd (bare.symm.trans sign) (noSign only)
        · have nothing : [] = digits := (List.cons.inj (sign.symm.trans signed)).2
          exact absurd nothing.symm given
  · next digits nonempty signed =>
      rw [readSizeFrom_eq_ok_iff none]
      constructor
      · intro written
        exact ⟨digits, Or.inr signed, nonempty, written⟩
      · intro written
        obtain ⟨others, bare | same, _, only, reads⟩ := written
        · exact absurd (bare.symm.trans signed) (noSign only)
        · have equal : others = digits := (List.cons.inj (same.symm.trans signed)).2
          exact ⟨equal ▸ only, equal ▸ reads⟩
  · next given notSign unsigned =>
      rw [readSizeFrom_eq_ok_iff none]
      constructor
      · intro written
        exact ⟨text.toList, Or.inl rfl, given, written⟩
      · intro written
        obtain ⟨digits, bare | signed, _, reads⟩ := written
        · exact bare ▸ reads
        · exact absurd signed (unsigned digits)

theorem readFlag_eq_ok_iff (text : String) (value : Bool) :
    readFlag text = .ok value ↔ text = if value then "true" else "false" := by
  rw [readFlag]
  split
  · next yes => cases value <;> simp [yes]
  · next notYes =>
      split
      · next no => cases value <;> simp [no]
      · next notNo => cases value <;> simp [notYes, notNo]

end Sizes

/-- The environment in which only the variables `names` are set. -/
def Environment.only (names : List String) (environment : Environment) : Environment :=
  fun name => if name ∈ names then environment name else none

namespace Settings

/-- The texts that a variable takes: a size for the limit, a truth value for the flag, any text for
the rest. -/
def Accepts (name text : String) : Prop :=
  (name = bodyLimitVariable → ∃ value, WritesSize text value) ∧
    (name = logJsonVariable → text = "true" ∨ text = "false")

/-- A variable is bad when it is set to a text that it does not take. -/
def Bad (environment : Environment) (name : String) : Prop :=
  ∃ text, environment name = some text ∧ ¬ Accepts name text

/-- The variables that are applied before one of them. -/
def variablesBefore (name : String) : List String := overrideVariables.takeWhile (· != name)

structure FirstBad (environment : Environment) (name : String) : Prop where
  overrides : name ∈ overrideVariables
  bad : Bad environment name
  first : ∀ earlier ∈ variablesBefore name, ¬ Bad environment earlier

variable {environment : Environment}

theorem accepts_limit_iff (text : String) :
    Accepts bodyLimitVariable text ↔ ∃ value, WritesSize text value := by
  have other : bodyLimitVariable ≠ logJsonVariable := by decide
  simp [Accepts, other]

theorem accepts_flag_iff (text : String) :
    Accepts logJsonVariable text ↔ text = "true" ∨ text = "false" := by
  have other : logJsonVariable ≠ bodyLimitVariable := by decide
  simp [Accepts, other]

theorem limit_reads (text : String) :
    Accepts bodyLimitVariable text ↔ ∃ value, readSize text = .ok value := by
  simp only [accepts_limit_iff, readSize_eq_ok_iff]

theorem flag_reads (text : String) :
    Accepts logJsonVariable text ↔ ∃ value, readFlag text = .ok value := by
  simp [accepts_flag_iff, readFlag_eq_ok_iff, or_comm]

theorem accepts_of_other {name : String} (notLimit : name ≠ bodyLimitVariable)
    (notFlag : name ≠ logJsonVariable) (text : String) : Accepts name text :=
  ⟨fun limit => absurd limit notLimit, fun flag => absurd flag notFlag⟩

theorem not_bad_iff {name : String} :
    ¬ Bad environment name ↔ ∀ text, environment name = some text → Accepts name text := by
  simp [Bad]

section Reading

variable {Value : Type} {name : String} {read : String → Except ValueFault Value}

/-- A variable whose reader keeps to what it takes is bad where the reader fails, and the fault
names it. -/
theorem readVariable_spec (reads : ∀ text, Accepts name text ↔ ∃ value, read text = .ok value) :
    (¬ Bad environment name ∧ ∃ value, readVariable environment name read = .ok value) ∨
      Bad environment name ∧
        ∃ cause, readVariable environment name read = .error ⟨name, cause⟩ := by
  rw [readVariable]
  cases set : environment name with
  | none => exact Or.inl ⟨by simp [Bad, set], none, rfl⟩
  | some text =>
      cases means : read text with
      | ok value =>
          have takes : Accepts name text := (reads text).mpr ⟨value, means⟩
          exact Or.inl ⟨by simp [Bad, set, takes], some value, by simp only [means]⟩
      | error cause =>
          have refuses : ¬ Accepts name text := by simp [reads, means]
          exact Or.inr ⟨⟨text, set, refuses⟩, cause, by simp only [means]⟩

theorem readVariable_only_of_mem {names : List String} (member : name ∈ names) :
    readVariable (environment.only names) name read = readVariable environment name read := by
  rw [readVariable, readVariable, Environment.only, if_pos member]

theorem readVariable_only_of_not_mem {names : List String} (absent : name ∉ names) :
    readVariable (environment.only names) name read = .ok none := by
  rw [readVariable, Environment.only, if_neg absent]

end Reading

section Runs

/-- A limit that is refused ends the run behind the path and the address. -/
theorem applyOverrides_of_bad_limit (settings : Settings)
    (bad : Bad environment bodyLimitVariable) :
    ∃ cause, applyOverrides environment settings =
      ((applyOverrides (environment.only (variablesBefore bodyLimitVariable)) settings).1,
        some ⟨bodyLimitVariable, cause⟩) := by
  have before : variablesBefore bodyLimitVariable = [indexVariable, addressVariable] := by decide
  rcases readVariable_spec limit_reads with ⟨good, _⟩ | ⟨_, cause, limit⟩
  · exact absurd bad good
  · refine ⟨cause, ?_⟩
    rw [before, applyOverrides_eq, applyOverrides_eq, limit,
      readVariable_only_of_not_mem (by decide), readVariable_only_of_not_mem (by decide)]
    rfl

/-- A flag that is refused ends the run at its last step. -/
theorem applyOverrides_of_bad_flag (settings : Settings)
    (fits : ¬ Bad environment bodyLimitVariable) (bad : Bad environment logJsonVariable) :
    ∃ cause, applyOverrides environment settings =
      ((applyOverrides (environment.only (variablesBefore logJsonVariable)) settings).1,
        some ⟨logJsonVariable, cause⟩) := by
  have before : variablesBefore logJsonVariable =
    [indexVariable, addressVariable, bodyLimitVariable, logLevelVariable] := by decide
  rcases readVariable_spec limit_reads with ⟨_, value, limit⟩ | ⟨limitBad, _⟩
  · rcases readVariable_spec flag_reads with ⟨good, _⟩ | ⟨_, cause, flag⟩
    · exact absurd bad good
    · refine ⟨cause, ?_⟩
      rw [before, applyOverrides_eq, applyOverrides_eq, readVariable_only_of_mem (by decide),
        limit, flag, readVariable_only_of_not_mem (by decide)]
      rfl
  · exact absurd limitBad fits

theorem applyOverrides_of_fits (settings : Settings)
    (limitFits : ¬ Bad environment bodyLimitVariable)
    (flagFits : ¬ Bad environment logJsonVariable) :
    (applyOverrides environment settings).2 = none := by
  rcases readVariable_spec limit_reads with ⟨_, value, limit⟩ | ⟨limitBad, _⟩
  · rcases readVariable_spec flag_reads with ⟨_, other, flag⟩ | ⟨flagBad, _⟩
    · rw [applyOverrides_eq, limit, flag]
    · exact absurd flagBad flagFits
  · exact absurd limitBad limitFits

variable {settings : Settings}

theorem applyOverrides_fits_iff :
    (applyOverrides environment settings).2 = none ↔
      ¬ Bad environment bodyLimitVariable ∧ ¬ Bad environment logJsonVariable := by
  constructor
  · intro success
    have limitFits : ¬ Bad environment bodyLimitVariable := by
      intro bad
      obtain ⟨cause, stopped⟩ := applyOverrides_of_bad_limit settings bad
      rw [stopped] at success
      cases success
    refine ⟨limitFits, ?_⟩
    intro bad
    obtain ⟨cause, stopped⟩ := applyOverrides_of_bad_flag settings limitFits bad
    rw [stopped] at success
    cases success
  · exact fun fits => applyOverrides_of_fits settings fits.1 fits.2

theorem overridden_of_fits (fits : (applyOverrides environment settings).2 = none) :
    Overridden environment settings (applyOverrides environment settings).1 :=
  applyOverrides_eq_iff.mp (Prod.ext rfl fits)

theorem not_bad_only {names : List String} (fits : ∀ name ∈ names, ¬ Bad environment name)
    (name : String) :
    ¬ Bad (environment.only names) name := by
  intro bad
  obtain ⟨text, set, refused⟩ := bad
  rw [Environment.only] at set
  split at set
  · next member => exact fits name member ⟨text, set, refused⟩
  · cases set

theorem not_bad_of_other {name : String} (notLimit : name ≠ bodyLimitVariable)
    (notFlag : name ≠ logJsonVariable) :
    ¬ Bad environment name :=
  not_bad_iff.mpr fun text _ => accepts_of_other notLimit notFlag text

/-- A run that stops does so at the first bad variable, with the overrides before it and no
others. -/
theorem stops_at_first_bad {fault : OverrideFault}
    (stopped : (applyOverrides environment settings).2 = some fault) :
    FirstBad environment fault.name ∧
      Overridden (environment.only (variablesBefore fault.name)) settings
        (applyOverrides environment settings).1 := by
  have overridden : ∀ name, (∀ earlier ∈ variablesBefore name, ¬ Bad environment earlier) →
      Overridden (environment.only (variablesBefore name)) settings
        (applyOverrides (environment.only (variablesBefore name)) settings).1 := by
    intro name fits
    exact overridden_of_fits
      (applyOverrides_of_fits settings (not_bad_only fits _) (not_bad_only fits _))
  by_cases limitBad : Bad environment bodyLimitVariable
  · obtain ⟨cause, run⟩ := applyOverrides_of_bad_limit settings limitBad
    have first : ∀ earlier ∈ variablesBefore bodyLimitVariable, ¬ Bad environment earlier := by
      have before : ∀ earlier ∈ variablesBefore bodyLimitVariable,
          earlier ≠ bodyLimitVariable ∧ earlier ≠ logJsonVariable := by decide
      exact fun earlier member =>
        not_bad_of_other (before earlier member).1 (before earlier member).2
    have known : bodyLimitVariable ∈ overrideVariables := by decide
    rw [run] at stopped ⊢
    cases stopped
    exact ⟨⟨known, limitBad, first⟩, overridden _ first⟩
  · by_cases flagBad : Bad environment logJsonVariable
    · obtain ⟨cause, run⟩ := applyOverrides_of_bad_flag settings limitBad flagBad
      have first : ∀ earlier ∈ variablesBefore logJsonVariable, ¬ Bad environment earlier := by
        have before : ∀ earlier ∈ variablesBefore logJsonVariable,
            earlier ≠ bodyLimitVariable → earlier ≠ logJsonVariable := by decide
        intro earlier member
        by_cases limit : earlier = bodyLimitVariable
        · exact limit ▸ limitBad
        · exact not_bad_of_other limit (before earlier member limit)
      have known : logJsonVariable ∈ overrideVariables := by decide
      rw [run] at stopped ⊢
      cases stopped
      exact ⟨⟨known, flagBad, first⟩, overridden _ first⟩
    · rw [applyOverrides_of_fits settings limitBad flagBad] at stopped
      cases stopped

/-- Values that were taken are taken again. -/
theorem applyOverrides_again (environment : Environment) (settings : Settings) :
    applyOverrides environment (applyOverrides environment settings).1 =
      applyOverrides environment settings := by
  have again : ∀ {Value : Type} (given : Option Value) (old : Value),
      given.getD (given.getD old) = given.getD old := by
    intro Value given old
    cases given <;> rfl
  rw [applyOverrides_eq environment settings]
  cases limitRead : readVariable environment bodyLimitVariable readSize with
  | error fault =>
      rw [applyOverrides_eq, limitRead]
      simp only [again]
  | ok limit =>
      cases flagRead : readVariable environment logJsonVariable readFlag with
      | error fault =>
          rw [applyOverrides_eq, limitRead, flagRead]
          simp only [again]
      | ok flag =>
          rw [applyOverrides_eq, limitRead, flagRead]
          simp only [again]

end Runs

/-- Overriding succeeds exactly when the limit, if it is set, is a size and the flag, if it is set,
a truth value. Then each of the five fields is what its variable says, or as it was; else the fault
names the first bad variable and only the fields before it are overridden. No other field changes,
and overriding again from the same environment comes to the same. -/
theorem overrides_apply_in_order (environment : Environment) (settings : Settings) :
    ((applyOverrides environment settings).2 = none ↔
        (∀ text, environment bodyLimitVariable = some text → ∃ value, WritesSize text value) ∧
          ∀ text, environment logJsonVariable = some text → text = "true" ∨ text = "false") ∧
      ((applyOverrides environment settings).2 = none →
        Overridden environment settings (applyOverrides environment settings).1) ∧
      (∀ fault, (applyOverrides environment settings).2 = some fault →
        FirstBad environment fault.name ∧
          Overridden (environment.only (variablesBefore fault.name)) settings
            (applyOverrides environment settings).1) ∧
      ((∀ text value, readSize text = .ok value ↔ WritesSize text value) ∧
        ∀ text value, readFlag text = .ok value ↔ text = if value then "true" else "false") ∧
      applyOverrides environment (applyOverrides environment settings).1 =
        applyOverrides environment settings := by
  refine ⟨?_, overridden_of_fits, fun fault => stops_at_first_bad,
    ⟨readSize_eq_ok_iff, readFlag_eq_ok_iff⟩, applyOverrides_again environment settings⟩
  rw [applyOverrides_fits_iff, not_bad_iff, not_bad_iff]
  simp only [accepts_limit_iff, accepts_flag_iff]

/-- Zeros in front do not count against the limit. -/
example : readSize "+00000000000000000000018446744073709551615" = .ok 18446744073709551615 ∧
    readSize "18446744073709551616" = .error .tooLarge := by decide +kernel

end Settings

end MessageCatalog
