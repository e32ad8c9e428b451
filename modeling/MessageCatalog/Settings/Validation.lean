import MessageCatalog.Settings.Basic
import MessageCatalog.Settings.SocketAddress

/-!
The rules that settings must satisfy before the server may use them, and what breaks them.
-/

namespace MessageCatalog

inductive Violation where
  | indexTooShort
  | indexEmptyPath
  | indexCharacters
  | bindAddress
  | bodyLimit
deriving DecidableEq

namespace Violation

def field : Violation → String
  | indexTooShort => "catalog_index"
  | indexEmptyPath => "catalog_index"
  | indexCharacters => "catalog_index"
  | bindAddress => "bind_address"
  | bodyLimit => "body_limit_bytes"

def code : Violation → String
  | indexTooShort => "length"
  | indexEmptyPath => "empty_file_path"
  | indexCharacters => "invalid_file_path_characters"
  | bindAddress => "invalid_bind_address"
  | bodyLimit => "range"

def message : Violation → String
  | indexTooShort => "Catalog index path cannot be empty"
  | indexEmptyPath => "Catalog index path contains invalid characters"
  | indexCharacters => "Catalog index path contains invalid characters"
  | bindAddress => "Bind address must be host:port"
  | bodyLimit => "Body limit must be between 1 KiB and 16 MiB"

end Violation

namespace Settings

/-- A path has at least this many characters. -/
def leastPathLength : Nat := 1

def leastBodyLimit : Nat := 1024

def greatestBodyLimit : Nat := 16777216

def isForbiddenInPath (c : Char) : Bool :=
  c == '<' || c == '>' || c == '"' || c == '|' || c == '?' || c == '*' || c == '\x00'

def pathViolation? (path : String) : Option Violation :=
  if path.isEmpty then some .indexEmptyPath
  else if path.toList.any isForbiddenInPath then some .indexCharacters
  else none

def addressViolation? (address : String) : Option Violation :=
  if (SocketAddress.ofText? address.toList).isSome then none else some .bindAddress

/-- Every broken rule, in the order of the fields and of the rules of a field. -/
def violations (settings : Settings) : List Violation :=
  (if settings.catalogIndex.length < leastPathLength then [.indexTooShort] else []) ++
    (pathViolation? settings.catalogIndex).toList ++
    (addressViolation? settings.bindAddress).toList ++
    (if settings.bodyLimit < leastBodyLimit || greatestBodyLimit < settings.bodyLimit then
      [.bodyLimit] else [])

end Settings

/-- The violations field by field, in the order in which the fields first appear. -/
def Violation.byField (violations : List Violation) : List (String × List Violation) :=
  (violations.map Violation.field).eraseDups.map fun field =>
    (field, violations.filter fun violation => violation.field == field)

/-- One line for each field with the messages of its violations. -/
def Violation.summary (violations : List Violation) : String :=
  "\n".intercalate ((Violation.byField violations).map fun entry =>
    entry.1 ++ ": " ++ ", ".intercalate (entry.2.map Violation.message))

end MessageCatalog
