import MessageCatalog.Catalog.Error
import MessageCatalog.Settings.Loading

/-!
Failures that keep the server from starting, with the failures underneath. What is shown of a
failure is the chain of its texts, outermost first.
-/

namespace MessageCatalog

/-- The part of the server that a failure belongs to. -/
inductive Area where
  | configuration
  | catalogs
  | logging
  | server
deriving DecidableEq

def Area.label : Area → String
  | configuration => "Configuration error"
  | catalogs => "Catalog error"
  | logging => "Logging error"
  | server => "Server error"

/-- A plain failure is shown as its text; an input failure repeats the text of its cause. -/
inductive Failure where
  | plain (text : String)
  | input (text : String)
  | within (text : String) (cause : Failure)
  | inArea (area : Area) (text : String)
  | inAreaBecause (area : Area) (text : String) (cause : Failure)

namespace Failure

def chain : Failure → List String
  | plain text => [text]
  | input text => ["I/O error: " ++ text, text]
  | within text cause => text :: cause.chain
  | inArea area text => [area.label ++ ": " ++ text]
  | inAreaBecause area text cause => (area.label ++ ": " ++ text) :: cause.chain

/-- The text shown for the failure itself. -/
def message : Failure → String
  | plain text => text
  | input text => "I/O error: " ++ text
  | within text _ => text
  | inArea area text => area.label ++ ": " ++ text
  | inAreaBecause area text _ => area.label ++ ": " ++ text

def ofSettingsError (error : SettingsError) : Failure :=
  match error.cause? with
  | some cause => within error.message (plain cause)
  | none => plain error.message

def ofCatalogError (error : CatalogError) : Failure :=
  match error.readError? with
  | some cause => within error.message (plain cause.message)
  | none => plain error.message

def badSettings (cause : Failure) : Failure :=
  inAreaBecause .configuration "Failed to load configuration" cause

/-- A variable of the environment that cannot be read, as a failure to load the settings. -/
def badVariable (name : String) (cause : Failure) : Failure :=
  badSettings
    (within ("Failed to parse environment variable '" ++ name ++ "': " ++ cause.message) cause)

def badCatalogs (error : CatalogError) : Failure :=
  inAreaBecause .catalogs "Failed to load catalogs" (ofCatalogError error)

def badLogging (cause : Failure) : Failure :=
  inAreaBecause .logging "Failed to initialize logging" cause

def unboundAddress (address : String) (cause : Failure) : Failure :=
  inAreaBecause .server ("Failed to bind " ++ address) cause

end Failure

end MessageCatalog
