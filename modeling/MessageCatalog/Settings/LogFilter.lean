import MessageCatalog.Number.Decimal
import MessageCatalog.Settings.Overrides
import MessageCatalog.Text.Pattern
import MessageCatalog.Text.Utf8

/-!
Log filters. A filter is a list of directives with commas between: a level, a target (which stands
for all levels), or a target or span with a level; a span may ask for a field and its value. What is
asked of a filter here is the most verbose level that any of its directives lets through.
-/

namespace MessageCatalog

open Text

inductive LogLevel where
  | off
  | error
  | warn
  | info
  | debug
  | trace
deriving DecidableEq

namespace LogLevel

def all : List LogLevel := [off, error, warn, info, debug, trace]

def name : LogLevel → String
  | off => "off"
  | error => "error"
  | warn => "warn"
  | info => "info"
  | debug => "debug"
  | trace => "trace"

def verbosity : LogLevel → Nat
  | off => 0
  | error => 1
  | warn => 2
  | info => 3
  | debug => 4
  | trace => 5

/-- The verbosity as a number, or the name in any case. -/
def ofText? (text : List Char) : Option LogLevel :=
  match readSize (String.ofList text) with
  | .ok number => all.find? (·.verbosity == number)
  | .error _ => all.find? (·.name.toList == text.map Char.toLower)

def max (left right : LogLevel) : LogLevel :=
  if left.verbosity < right.verbosity then right else left

end LogLevel

namespace LogFilter

def beginsTarget (c : Char) : Bool := c == '-' || c == ':' || c == '_' || isAlphanumeric c

/-- A number without regard to its size, infinite or none at all. -/
def isNumber (text : List Char) : Bool :=
  let unsigned := match text with
    | '+' :: rest => rest
    | '-' :: rest => rest
    | _ => text
  let special := ["inf", "infinity", "nan"].contains (String.ofList (unsigned.map Char.toLower))
  special || (Numeral.ofText? text).isSome

/-- The value of a field is a number or a pattern for the text of the value. -/
def isFieldValue (text : List Char) : Bool := isNumber text || Pattern.wellFormed text

/-- A directive as given and without the blanks around it. The parts of a directive are found in the
trimmed text and cut out of the given one at the same places; so blanks in front shift them, and
blanks behind belong to a level. -/
structure Directive where
  given : List Char
  trimmed : List Char

namespace Directive

def ofText (text : List Char) : Directive := ⟨text, trim text⟩

/-- The place at which `rest` is left to read. -/
def place (directive : Directive) (rest : List Char) : Nat :=
  byteCount directive.trimmed - byteCount rest

/-- The level behind an equals sign; none means all levels. -/
def levelBehind? (directive : Directive) (rest : List Char) : Option LogLevel := do
  match ← bytesFrom? (directive.place rest) directive.given with
  | [] => some .trace
  | text => LogLevel.ofText? text

/-- What follows a span: nothing or a level. -/
def afterSpan? (directive : Directive) : List Char → Option LogLevel
  | [] => some .trace
  | '=' :: level => directive.levelBehind? level
  | _ => none

/-- A field in braces and the bracket behind it. A field with a value lets all levels through. -/
def fieldLevel? (directive : Directive) (rest : List Char) : Option LogLevel := do
  let behind := rest.dropWhile (· != '\x7d')
  let field ← bytesBetween? (directive.place rest) (directive.place behind) directive.given
  match field, behind with
  | _ :: _, '\x7d' :: ']' :: behind => do
      let level ← directive.afterSpan? behind
      match field.splitOn '=' with
      | _ :: value :: _ => if isFieldValue value then some .trace else none
      | _ => some level
  | _, _ => none

/-- A span in brackets, perhaps with a field. -/
def spanLevel? (directive : Directive) (rest : List Char) : Option LogLevel :=
  match rest.dropWhile fun c => c != ']' && c != '\x7b' with
  | ']' :: behind => directive.afterSpan? behind
  | '\x7b' :: behind => directive.fieldLevel? behind
  | _ => none

/-- The level of a directive, or nothing when it is malformed. -/
def level? (directive : Directive) : Option LogLevel :=
  match directive.trimmed with
  | [] => none
  | '[' :: rest => directive.spanLevel? rest
  | first :: rest =>
      if !beginsTarget first then none
      else
        match (first :: rest).dropWhile fun c => c != '=' && c != '[' with
        | '=' :: level => directive.levelBehind? level
        | '[' :: span => directive.spanLevel? span
        | _ => some ((LogLevel.ofText? directive.given).getD .trace)

end Directive

def directives (text : List Char) : List (List Char) :=
  (text.splitOn ',').filter (!·.isEmpty)

/-- The most verbose level of a filter. One malformed directive makes the whole filter `info`, and
without any directive nothing is let through. -/
def mostVerbose (text : String) : LogLevel :=
  match (directives text.toList).mapM fun text => (Directive.ofText text).level? with
  | some levels => levels.foldl LogLevel.max .off
  | none => .info

end LogFilter

end MessageCatalog
