import Mathlib.Data.List.Basic
import MessageCatalog.Settings.Overrides

/-!
Overriding settings from the environment. A field with a variable of its own takes the value of that
variable where it is set and is kept where it is not, and which variable cannot be read does not
depend on the settings. So settings that differ only in fields whose variables are set come to the
same.
-/

namespace MessageCatalog.Settings

section Variables

variable {Value : Type} (environment : Environment) (name : String)
    (read : String → Except ValueFault Value)

/-- What a variable says, if it is set. -/
def readVariable : Except OverrideFault (Option Value) :=
  match environment name with
  | none => .ok none
  | some text =>
      match read text with
      | .ok value => .ok (some value)
      | .error cause => .error ⟨name, cause⟩

/-- An override of the field that `field` shows: the settings decide the value kept, not whether the
variable can be read. -/
theorem overrideWith_eq (field : Settings → Value) {set : Value → Settings → Settings}
    {settings : Settings} (kept : set (field settings) settings = settings) :
    overrideWith environment name read set settings =
      (readVariable environment name read).map fun value =>
        set (value.getD (field settings)) settings := by
  simp only [overrideWith, readVariable]
  cases environment name with
  | none => exact congrArg Except.ok kept.symm
  | some text =>
      dsimp only
      cases read text <;> rfl

theorem readVariable_text : readVariable environment name .ok = .ok (environment name) := by
  simp only [readVariable]
  cases environment name <;> rfl

/-- The value of a field after an override: what its variable says, or else the old value. -/
inductive Takes (old : Value) : Value → Prop where
  | kept (unset : environment name = none) : Takes old old
  | given {text : String} {value : Value} (set : environment name = some text)
      (means : read text = .ok value) :
      Takes old value

variable {environment name read} {old new : Value}

theorem takes_iff : Takes environment name read old new ↔
    ∃ value, readVariable environment name read = .ok value ∧ value.getD old = new := by
  constructor
  · intro takes
    cases takes with
    | kept unset => exact ⟨none, by rw [readVariable, unset], rfl⟩
    | given set means => exact ⟨some new, by simp only [readVariable, set, means], rfl⟩
  · intro readAs
    obtain ⟨value, reading, rfl⟩ := readAs
    unfold readVariable at reading
    split at reading
    · next unset =>
        cases reading
        exact .kept unset
    · next text set =>
        split at reading
        · next means =>
            cases reading
            exact .given set means
        · cases reading

theorem takes_text_iff {old new : String} :
    Takes environment name .ok old new ↔ (environment name).getD old = new := by
  rw [takes_iff, readVariable_text]
  simp

/-- The old value counts only where the variable is not set. -/
theorem Takes.of_agree {other : Value} (agree : environment name = none → old = other)
    (takes : Takes environment name read old new) : Takes environment name read other new := by
  cases takes with
  | kept unset => exact agree unset ▸ .kept unset
  | given set means => exact .given set means

end Variables

variable {environment : Environment}

/-- A run of the overrides: the two texts are always readable, so only the limit and the flag can
end it. -/
theorem applyOverrides_eq (environment : Environment) (settings : Settings) :
    applyOverrides environment settings =
      let index := (environment indexVariable).getD settings.catalogIndex
      let address := (environment addressVariable).getD settings.bindAddress
      match readVariable environment bodyLimitVariable readSize with
      | .error fault =>
          ({ settings with catalogIndex := index, bindAddress := address }, some fault)
      | .ok limit =>
          let limit := limit.getD settings.bodyLimit
          let logging :=
            { settings.logging with
              level := (environment logLevelVariable).getD settings.logging.level }
          match readVariable environment logJsonVariable readFlag with
          | .error fault => (⟨index, address, limit, logging⟩, some fault)
          | .ok flag =>
              (⟨index, address, limit, { logging with jsonFormat := flag.getD logging.jsonFormat }⟩,
                none) := by
  simp only [applyOverrides, overrides, applyAll]
  rw [overrideWith_eq environment indexVariable .ok Settings.catalogIndex rfl, readVariable_text]
  simp only [Except.map]
  rw [overrideWith_eq environment addressVariable .ok Settings.bindAddress rfl, readVariable_text]
  simp only [Except.map]
  rw [overrideWith_eq environment bodyLimitVariable readSize Settings.bodyLimit rfl]
  cases readVariable environment bodyLimitVariable readSize with
  | error fault => rfl
  | ok limit =>
      simp only [Except.map]
      rw [overrideWith_eq environment logLevelVariable .ok (fun settings => settings.logging.level)
        rfl, readVariable_text]
      simp only [Except.map]
      rw [overrideWith_eq environment logJsonVariable readFlag
        (fun settings => settings.logging.jsonFormat) rfl]
      cases readVariable environment logJsonVariable readFlag <;> rfl

/-- The variables that override a field. -/
def overrideVariables : List String :=
  [indexVariable, addressVariable, bodyLimitVariable, logLevelVariable, logJsonVariable]

theorem applyOverrides_congr {other : Environment}
    (same : ∀ name ∈ overrideVariables, environment name = other name) (settings : Settings) :
    applyOverrides environment settings = applyOverrides other settings := by
  simp only [overrideVariables, List.forall_mem_cons] at same
  obtain ⟨index, address, limit, level, flag, -⟩ := same
  simp only [applyOverrides_eq, readVariable, index, address, limit, level, flag]

/-- The first of the variables that cannot be read. -/
def firstFault? (environment : Environment) : Option OverrideFault :=
  match readVariable environment bodyLimitVariable readSize,
    readVariable environment logJsonVariable readFlag with
  | .error fault, _ => some fault
  | .ok _, .error fault => some fault
  | .ok _, .ok _ => none

theorem applyOverrides_fault (environment : Environment) (settings : Settings) :
    (applyOverrides environment settings).2 = firstFault? environment := by
  rw [applyOverrides_eq, firstFault?]
  cases readVariable environment bodyLimitVariable readSize with
  | error fault => rfl
  | ok limit => cases readVariable environment logJsonVariable readFlag <;> rfl

/-- The settings that the environment makes of others. -/
structure Overridden (environment : Environment) (before after : Settings) : Prop where
  catalogIndex : Takes environment indexVariable .ok before.catalogIndex after.catalogIndex
  bindAddress : Takes environment addressVariable .ok before.bindAddress after.bindAddress
  bodyLimit : Takes environment bodyLimitVariable readSize before.bodyLimit after.bodyLimit
  level : Takes environment logLevelVariable .ok before.logging.level after.logging.level
  jsonFormat :
    Takes environment logJsonVariable readFlag before.logging.jsonFormat after.logging.jsonFormat
  prettyFormat : after.logging.prettyFormat = before.logging.prettyFormat
  includeSpans : after.logging.includeSpans = before.logging.includeSpans
  includeTargets : after.logging.includeTargets = before.logging.includeTargets

theorem applyOverrides_eq_iff {before after : Settings} :
    applyOverrides environment before = (after, none) ↔ Overridden environment before after := by
  rw [applyOverrides_eq]
  constructor
  · intro success
    split at success
    · cases success
    · next limit limitRead =>
        split at success
        · cases success
        · next flag flagRead =>
            cases success
            exact {
              catalogIndex := takes_text_iff.mpr rfl
              bindAddress := takes_text_iff.mpr rfl
              bodyLimit := takes_iff.mpr ⟨limit, limitRead, rfl⟩
              level := takes_text_iff.mpr rfl
              jsonFormat := takes_iff.mpr ⟨flag, flagRead, rfl⟩
              prettyFormat := rfl
              includeSpans := rfl
              includeTargets := rfl }
  · intro overridden
    obtain ⟨limit, limitRead, sameLimit⟩ := takes_iff.mp overridden.bodyLimit
    obtain ⟨flag, flagRead, sameFlag⟩ := takes_iff.mp overridden.jsonFormat
    have sameIndex := takes_text_iff.mp overridden.catalogIndex
    have sameAddress := takes_text_iff.mp overridden.bindAddress
    have sameLevel := takes_text_iff.mp overridden.level
    simp only [limitRead, flagRead, sameLimit, sameFlag, sameIndex, sameAddress, sameLevel]
    rw [← overridden.prettyFormat, ← overridden.includeSpans, ← overridden.includeTargets]

/-- Settings that differ at most in fields whose variables are set. -/
structure AgreeUnlessSet (environment : Environment) (left right : Settings) : Prop where
  catalogIndex : environment indexVariable = none → left.catalogIndex = right.catalogIndex
  bindAddress : environment addressVariable = none → left.bindAddress = right.bindAddress
  bodyLimit : environment bodyLimitVariable = none → left.bodyLimit = right.bodyLimit
  level : environment logLevelVariable = none → left.logging.level = right.logging.level
  jsonFormat :
    environment logJsonVariable = none → left.logging.jsonFormat = right.logging.jsonFormat
  prettyFormat : left.logging.prettyFormat = right.logging.prettyFormat
  includeSpans : left.logging.includeSpans = right.logging.includeSpans
  includeTargets : left.logging.includeTargets = right.logging.includeTargets

theorem Overridden.of_agree {left right after : Settings}
    (agree : AgreeUnlessSet environment left right)
    (overridden : Overridden environment left after) : Overridden environment right after where
  catalogIndex := overridden.catalogIndex.of_agree agree.catalogIndex
  bindAddress := overridden.bindAddress.of_agree agree.bindAddress
  bodyLimit := overridden.bodyLimit.of_agree agree.bodyLimit
  level := overridden.level.of_agree agree.level
  jsonFormat := overridden.jsonFormat.of_agree agree.jsonFormat
  prettyFormat := overridden.prettyFormat.trans agree.prettyFormat
  includeSpans := overridden.includeSpans.trans agree.includeSpans
  includeTargets := overridden.includeTargets.trans agree.includeTargets

end MessageCatalog.Settings
