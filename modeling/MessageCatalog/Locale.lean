import MessageCatalog.Text.Blank

/-!
Locales: the default one, the key of a locale table, and the language that a request asks for.
-/

namespace MessageCatalog

open Text

def defaultLocale : String := "en"

/-- No locale asked for means the default one. -/
def isDefaultLocale : Option String → Bool
  | none => true
  | some locale => locale == defaultLocale

/-- Names one locale table of one catalog. Two keys may be displayed alike and still differ. -/
structure TableKey where
  catalog : String
  locale : String
deriving DecidableEq

namespace TableKey

def ofDefault (catalog : String) : TableKey := ⟨catalog, defaultLocale⟩

def isDefault (key : TableKey) : Bool := isDefaultLocale (some key.locale)

def display (key : TableKey) : String :=
  if key.isDefault then key.catalog else key.catalog ++ "-" ++ key.locale

/-- Byte order of the catalog, then of the locale. -/
def le (left right : TableKey) : Bool :=
  if left.catalog = right.catalog then decide (left.locale ≤ right.locale)
  else decide (left.catalog ≤ right.catalog)

def sort (keys : List TableKey) : List TableKey := keys.mergeSort le

end TableKey

def isAsciiLetter (c : Char) : Bool := ('a' ≤ c && c ≤ 'z') || ('A' ≤ c && c ≤ 'Z')

/-- The primary subtag of the first entry of an `Accept-Language` value, in lower case. Wildcards
and everything else that is no run of ASCII letters ask for no language. -/
def preferredLanguage? (header : List Char) : Option String :=
  let first := upTo (· == ',') header
  let tag := trim (upTo (· == ';') first)
  let primary := trim (upTo (fun c => c == '-' || c == '_') tag)
  if !primary.isEmpty && primary.all isAsciiLetter then
    some (String.ofList (primary.map Char.toLower))
  else none

end MessageCatalog
