import MessageCatalog.Files.Path
import MessageCatalog.Json.Reader
import MessageCatalog.Yaml.Reader

/-!
Reading a document in the form that its file name announces.
-/

namespace MessageCatalog

namespace DocumentForm

def asciiLower (text : List Char) : List Char := text.map Char.toLower

/-- YAML for the extensions `yaml` and `yml` in any case, JSON for everything else. -/
def ofPath (path : List Char) : DocumentForm :=
  match Path.extension? path with
  | some extension =>
      if asciiLower extension == "yaml".toList || asciiLower extension == "yml".toList then yaml
      else json
  | none => json

end DocumentForm

/-- Reads what is selected of a text. -/
def Node.ofText? : DocumentForm → Selection → String → Option Node
  | .json, selection, text => Json.readNode? selection text.toList
  | .yaml, selection, text => Yaml.readNode? selection text.toList

end MessageCatalog
