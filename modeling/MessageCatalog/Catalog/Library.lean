import MessageCatalog.Catalog.Entry
import MessageCatalog.Catalog.Error
import MessageCatalog.Catalog.Source
import MessageCatalog.Document.Reader
import MessageCatalog.Locale

/-!
The loaded catalogs. An index names catalogs and says where each one lives; a local catalog is a
document of locale tables, each a table of message entries by code. All local catalogs are read when
the library is built, in byte order of their names, and the first failure ends loading.
-/

namespace MessageCatalog

abbrev Table := Keyed Entry

/-- `index` is in byte order of the names; `tables` holds the locale tables of all local
catalogs. -/
structure Library where
  indexPath : String
  index : Keyed Source
  tables : Keyed Table TableKey

namespace Library

/-- The document at `path`, read in the form that the path announces. -/
def readDocument {Value : Type} (tree : FileTree) (path : String) (blame : ReadError → CatalogError)
    (decode : Node → Option Value) : Except CatalogError Value :=
  match tree.readText path with
  | .error cause => .error (blame cause)
  | .ok text =>
      match (Node.ofText? (DocumentForm.ofPath path.toList) .whole text).bind decode with
      | some value => .ok value
      | none => .error (.malformedDocument path)

def decodeIndex? (node : Node) : Option (Keyed Json) := node.keyed? Node.toJson?

def decodeCatalog? (node : Node) : Option (Keyed Table) := node.keyed? (Node.keyed? Entry.ofNode?)

def readIndex (tree : FileTree) (indexPath : String) : Except CatalogError (Keyed Json) :=
  readDocument tree indexPath (.unreadableIndex indexPath) decodeIndex?

/-- Where every entry of an index says its catalog lives, in byte order of the names. -/
def sourcesOf (entries : Keyed Json) : Keyed Source :=
  Keyed.sorted (entries.map fun entry => (entry.1, Source.ofEntry entry.2))

/-- The directory of the index. -/
def root (indexPath : String) : List Char := (Path.parent? indexPath.toList).getD ['.']

/-- A local url that leads to a directory stands for the `index.json` inside it. -/
def catalogPath (tree : FileTree) (root : List Char) (url : String) : String :=
  let path := Path.join root (Source.relativePath url.toList)
  String.ofList
    (if tree.isDirectory (String.ofList path) then Path.join path "index.json".toList else path)

def readCatalog (tree : FileTree) (root : List Char) (catalog url : String) :
    Except CatalogError (Keyed Table) :=
  let path := catalogPath tree root url
  readDocument tree path (.unreadableCatalog catalog path) decodeCatalog?

def loadCatalog (tree : FileTree) (root : List Char) (catalog url : String) :
    Except CatalogError (Keyed Table) := do
  let tables ← readCatalog tree root catalog url
  if (tables.get? defaultLocale).isSome then .ok tables else .error (.missingDefaultLocale catalog)

/-- Adds the locale tables of one catalog to those stored. -/
def store (catalog : String) (tables : Keyed Table) (stored : Keyed Table TableKey) :
    Keyed Table TableKey :=
  tables.foldl (fun stored entry => stored.put ⟨catalog, entry.1⟩ entry.2) stored

def loadCatalogs (tree : FileTree) (root : List Char) :
    Keyed Source → Keyed Table TableKey → Except CatalogError (Keyed Table TableKey)
  | [], stored => .ok stored
  | (catalog, .here url) :: rest, stored => do
      let tables ← loadCatalog tree root catalog url
      loadCatalogs tree root rest (store catalog tables stored)
  | _ :: rest, stored => loadCatalogs tree root rest stored

def load (tree : FileTree) (indexPath : String) : Except CatalogError Library := do
  let entries ← readIndex tree indexPath
  let index := sourcesOf entries
  let tables ← loadCatalogs tree (root indexPath) index []
  .ok ⟨indexPath, index, tables⟩

/-- A catalog is usable when it is in the index with a local url. -/
def check (library : Library) (catalog : String) : Except CatalogError Unit :=
  match library.index.get? catalog with
  | none => .error (.catalogNotFound catalog)
  | some (.notText url) => .error (.urlNotText catalog url)
  | some (.here _) => .ok ()
  | some (.remote _) => .error (.remoteCatalog catalog)
  | some (.unsupported _) => .error (.unknownScheme catalog)

def table? (library : Library) (key : TableKey) : Option Table := library.tables.get? key

def names (library : Library) : List String := library.index.keys

/-- The locales of a catalog in byte order. -/
def locales (library : Library) (catalog : String) : List String :=
  let keys := library.tables.keys.filter (·.catalog == catalog)
  (keys.map TableKey.locale).mergeSort (fun left right => decide (left ≤ right))

/-- The codes of a table in byte order. -/
def codes? (library : Library) (key : TableKey) : Option (List String) :=
  (library.table? key).map fun table => table.sorted.keys

/-- The entry of one table, without a fallback. -/
def entry? (library : Library) (key : TableKey) (code : String) : Option Entry := do
  let table ← library.table? key
  table.get? code

/-- The entry in the locale asked for, or else the one in the default locale. -/
def findEntry? (library : Library) (catalog code : String) (locale : Option String) :
    Option Entry :=
  let fallback := library.entry? (.ofDefault catalog) code
  match locale with
  | none => fallback
  | some locale =>
      if isDefaultLocale (some locale) then fallback
      else (library.entry? ⟨catalog, locale⟩ code).orElse fun _ => fallback

def hasMessage (library : Library) (catalog code : String) (locale : Option String) : Bool :=
  (library.check catalog).isOk && (library.findEntry? catalog code locale).isSome

end Library

end MessageCatalog
