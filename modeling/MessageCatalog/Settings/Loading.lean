import MessageCatalog.Files.Tree
import MessageCatalog.Settings.Overrides
import MessageCatalog.Settings.Validation

/-!
Loading the settings. One source is chosen: the file asked for, the file that the environment names,
a file with a standard name, or the defaults; a chosen source that fails is an error and no other is
tried. The overrides of the environment come next, and the result must satisfy the rules.
-/

namespace MessageCatalog

inductive SettingsError where
  | unreadable (cause : ReadError)
  | malformed
  | invalid (violations : List Violation)
  | badOverride (fault : OverrideFault)
deriving DecidableEq

def SettingsError.message : SettingsError → String
  | unreadable cause => "Failed to read configuration file: " ++ cause.message
  | malformed => "Failed to parse YAML configuration"
  | invalid violations => "Configuration validation failed: " ++ Violation.summary violations
  | badOverride fault => fault.message

/-- The text of the error underneath. -/
def SettingsError.cause? : SettingsError → Option String
  | unreadable cause => some cause.message
  | malformed => none
  | invalid violations => some (Violation.summary violations)
  | badOverride fault => some fault.cause.message

namespace Settings

def pathVariable : String := "MSGCAT_CONFIG_PATH"

def standardFiles : List String := ["msgcat.yaml", "msgcat.yml"]

/-- The file to read, if any. -/
def chooseFile? (tree : FileTree) (environment : Environment) (asked : Option String) :
    Option String :=
  asked.orElse fun _ =>
    (environment pathVariable).orElse fun _ => standardFiles.find? tree.exists?

def readFile (tree : FileTree) (path : String) : Except SettingsError Settings :=
  match tree.readText path with
  | .error cause => .error (.unreadable cause)
  | .ok text =>
      match ofText? .yaml text with
      | some settings => .ok settings
      | none => .error .malformed

/-- The settings of the chosen source, before overrides. -/
def readSource (tree : FileTree) (environment : Environment) (asked : Option String) :
    Except SettingsError Settings :=
  match chooseFile? tree environment asked with
  | some path => readFile tree path
  | none => .ok standard

def check (settings : Settings) : Except SettingsError Settings :=
  match settings.violations with
  | [] => .ok settings
  | violations => .error (.invalid violations)

def override (environment : Environment) (settings : Settings) : Except SettingsError Settings :=
  match applyOverrides environment settings with
  | (settings, none) => .ok settings
  | (_, some fault) => .error (.badOverride fault)

def load (tree : FileTree) (environment : Environment) (asked : Option String) :
    Except SettingsError Settings := do
  let source ← readSource tree environment asked
  let settings ← override environment source
  check settings

end Settings

end MessageCatalog
