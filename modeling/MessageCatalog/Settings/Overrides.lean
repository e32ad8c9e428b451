import MessageCatalog.Settings.Basic
import MessageCatalog.Text.Digits

/-!
Environment variables that override settings. They are applied one after the other; the first value
that cannot be read ends the run, and the overrides before it stay.
-/

namespace MessageCatalog

open Text

/-- The environment: the values of the variables that are set. -/
abbrev Environment := String → Option String

inductive ValueFault where
  | noDigits
  | invalidDigit
  | tooLarge
  | notBoolean
deriving DecidableEq

def ValueFault.message : ValueFault → String
  | noDigits => "cannot parse integer from empty string"
  | invalidDigit => "invalid digit found in string"
  | tooLarge => "number too large to fit in target type"
  | notBoolean => "provided string was not `true` or `false`"

/-- The variable whose value cannot be read, and why. -/
structure OverrideFault where
  name : String
  cause : ValueFault
deriving DecidableEq

def OverrideFault.message (fault : OverrideFault) : String :=
  "Failed to parse environment variable '" ++ fault.name ++ "': " ++ fault.cause.message

def sizeLimit : Nat := Nat.pow 2 64

/-- Digits are taken from the left, so that a number that is already too large is found before a
later character that is no digit. -/
def readSizeFrom (value : Nat) : List Char → Except ValueFault Nat
  | [] => .ok value
  | c :: rest =>
      match digitValue? 10 c with
      | none => .error .invalidDigit
      | some digit =>
          if 10 * value + digit < sizeLimit then readSizeFrom (10 * value + digit) rest
          else .error .tooLarge

/-- A size: digits behind an optional plus sign. -/
def readSize (text : String) : Except ValueFault Nat :=
  match text.toList with
  | [] => .error .noDigits
  | ['+'] => .error .invalidDigit
  | '+' :: digits => readSizeFrom 0 digits
  | digits => readSizeFrom 0 digits

def readFlag (text : String) : Except ValueFault Bool :=
  if text = "true" then .ok true
  else if text = "false" then .ok false
  else .error .notBoolean

namespace Settings

def indexVariable : String := "MSGCAT_CATALOG_INDEX"

def addressVariable : String := "MSGCAT_BIND_ADDRESS"

def bodyLimitVariable : String := "MSGCAT_BODY_LIMIT"

def logLevelVariable : String := "MSGCAT_LOG_LEVEL"

def logJsonVariable : String := "MSGCAT_LOG_JSON"

/-- One override: sets a field from the variable `name`, if that is set. -/
def overrideWith {Value : Type} (environment : Environment) (name : String)
    (read : String → Except ValueFault Value) (set : Value → Settings → Settings)
    (settings : Settings) : Except OverrideFault Settings :=
  match environment name with
  | none => .ok settings
  | some text =>
      match read text with
      | .ok value => .ok (set value settings)
      | .error cause => .error ⟨name, cause⟩

abbrev Override := Settings → Except OverrideFault Settings

def overrides (environment : Environment) : List Override :=
  [overrideWith environment indexVariable .ok fun value settings =>
      { settings with catalogIndex := value },
    overrideWith environment addressVariable .ok fun value settings =>
      { settings with bindAddress := value },
    overrideWith environment bodyLimitVariable readSize fun value settings =>
      { settings with bodyLimit := value },
    overrideWith environment logLevelVariable .ok fun value settings =>
      { settings with logging := { settings.logging with level := value } },
    overrideWith environment logJsonVariable readFlag fun value settings =>
      { settings with logging := { settings.logging with jsonFormat := value } }]

/-- Applies overrides in order. The settings returned are those reached; a fault says where the run
ended. -/
def applyAll : List Override → Settings → Settings × Option OverrideFault
  | [], settings => (settings, none)
  | override :: rest, settings =>
      match override settings with
      | .ok next => applyAll rest next
      | .error fault => (settings, some fault)

def applyOverrides (environment : Environment) (settings : Settings) :
    Settings × Option OverrideFault :=
  applyAll (overrides environment) settings

end Settings

end MessageCatalog
