import MessageCatalog.Document.Reader

/-!
The settings of the server and their written form. Fields that are not given have a default and
unknown fields are passed over. In JSON a record may also be written as an array of its fields.
-/

namespace MessageCatalog

structure LogSettings where
  level : String
  jsonFormat : Bool
  prettyFormat : Bool
  includeSpans : Bool
  includeTargets : Bool
deriving DecidableEq

structure Settings where
  catalogIndex : String
  bindAddress : String
  bodyLimit : Nat
  logging : LogSettings
deriving DecidableEq

namespace Node

/-- The nodes of the fields of a record, in the order of `names`. -/
def fields? (form : DocumentForm) (names : List String) (node : Node) :
    Option (List (Option Node)) :=
  match form, node with
  | .json, sequence items =>
      if items.length ≤ names.length then
        some (items.map some ++ List.replicate (names.length - items.length) none)
      else none
  | _, _ => do
      let members ← node.members?
      names.mapM fun name => field? name members

/-- The value of a field, or its default when it is not given. -/
def fieldOr {Value : Type} (read : Node → Option Value) (default : Value) :
    Option Node → Option Value
  | none => some default
  | some node => read node

end Node

namespace LogSettings

def standard : LogSettings := ⟨"info", false, false, false, true⟩

def fieldNames : List String :=
  ["level", "json_format", "pretty_format", "include_spans", "include_targets"]

def selection : Selection := .record (fieldNames.map fun name => (name, .whole))

def ofNode? (form : DocumentForm) (node : Node) : Option LogSettings := do
  match ← node.fields? form fieldNames with
  | [level, jsonFormat, prettyFormat, includeSpans, includeTargets] => do
      let level ← Node.fieldOr Node.text? standard.level level
      let jsonFormat ← Node.fieldOr Node.boolean? standard.jsonFormat jsonFormat
      let prettyFormat ← Node.fieldOr Node.boolean? standard.prettyFormat prettyFormat
      let includeSpans ← Node.fieldOr Node.boolean? standard.includeSpans includeSpans
      let includeTargets ← Node.fieldOr Node.boolean? standard.includeTargets includeTargets
      some ⟨level, jsonFormat, prettyFormat, includeSpans, includeTargets⟩
  | _ => none

/-- Reads the settings that a text writes. -/
def ofText? (form : DocumentForm) (text : String) : Option LogSettings :=
  (Node.ofText? form selection text).bind (ofNode? form)

def toJson (settings : LogSettings) : Json :=
  .object
    [("level", .text settings.level), ("json_format", .boolean settings.jsonFormat),
      ("pretty_format", .boolean settings.prettyFormat),
      ("include_spans", .boolean settings.includeSpans),
      ("include_targets", .boolean settings.includeTargets)]

end LogSettings

namespace Settings

def standard : Settings :=
  ⟨"catalogs/catalog-index.json", "127.0.0.1:3000", 1024 * 1024, .standard⟩

def fieldNames : List String := ["catalog_index", "bind_address", "body_limit_bytes", "logging"]

def selection : Selection :=
  .record
    [("catalog_index", .whole), ("bind_address", .whole), ("body_limit_bytes", .whole),
      ("logging", LogSettings.selection)]

def ofNode? (form : DocumentForm) (node : Node) : Option Settings := do
  match ← node.fields? form fieldNames with
  | [catalogIndex, bindAddress, bodyLimit, logging] => do
      let catalogIndex ← Node.fieldOr Node.text? standard.catalogIndex catalogIndex
      let bindAddress ← Node.fieldOr Node.text? standard.bindAddress bindAddress
      let bodyLimit ← Node.fieldOr Node.count? standard.bodyLimit bodyLimit
      let logging ← Node.fieldOr (LogSettings.ofNode? form) standard.logging logging
      some ⟨catalogIndex, bindAddress, bodyLimit, logging⟩
  | _ => none

/-- Reads the settings that a text writes. -/
def ofText? (form : DocumentForm) (text : String) : Option Settings :=
  (Node.ofText? form selection text).bind (ofNode? form)

def toJson (settings : Settings) : Json :=
  .object
    [("catalog_index", .text settings.catalogIndex), ("bind_address", .text settings.bindAddress),
      ("body_limit_bytes", .number (.integer settings.bodyLimit)),
      ("logging", settings.logging.toJson)]

end Settings

end MessageCatalog
