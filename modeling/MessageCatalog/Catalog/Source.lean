import MessageCatalog.Files.Path
import MessageCatalog.Json.Printer
import MessageCatalog.Text.CaseFold

/-!
Where an index entry says its catalog lives, and the path that a local url stands for.
-/

namespace MessageCatalog

open Text

inductive Source where
  | here (url : String)
  | remote (url : String)
  | unsupported (url : String)
  | notText (shown : String)
deriving DecidableEq

namespace Source

def fileScheme : List Char := "file://".toList

def isLocalUrl (url : List Char) : Bool := (dropStart? fileScheme url).isSome

def isRemoteUrl (url : List Char) : Bool :=
  (dropStart? "http://".toList url).isSome || (dropStart? "https://".toList url).isSome

/-- Schemes are compared without regard to case. -/
def ofUrl (url : String) : Source :=
  if isLocalUrl url.toList then here url
  else if isRemoteUrl url.toList then remote url
  else unsupported url

def classify : Option Json → Source
  | some (.text url) => ofUrl url
  | some other => notText other.wireText
  | none => notText "undefined"

/-- The source of an index entry is in its `url`. -/
def ofEntry (entry : Json) : Source := classify (entry.member? "url")

def url : Source → String
  | here url => url
  | remote url => url
  | unsupported url => url
  | notText shown => shown

def dropDotSlashes : List Char → List Char
  | '.' :: '/' :: rest => dropDotSlashes rest
  | rest => rest

/-- What a local url names below the directory of the index: the part behind the scheme without the
leading `./` and then without the leading slashes, so that it is never an absolute path. -/
def relativePath (url : List Char) : List Char :=
  (dropDotSlashes ((dropStart? fileScheme url).getD [])).dropWhile (· == '/')

theorem dropWhile_head_ne (text : List Char) : (text.dropWhile (· == '/')).head? ≠ some '/' := by
  induction text with
  | nil => simp
  | cons c rest induction =>
      by_cases slash : c = '/'
      · simpa [List.dropWhile_cons, slash] using induction
      · simp [slash]

theorem relativePath_not_absolute (url : List Char) :
    Path.isAbsolute (relativePath url) = false := by
  have := dropWhile_head_ne (dropDotSlashes ((dropStart? fileScheme url).getD []))
  simpa [Path.isAbsolute, relativePath] using this

end Source

end MessageCatalog
