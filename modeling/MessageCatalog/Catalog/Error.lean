import MessageCatalog.Files.Tree
import MessageCatalog.Insert.Error

/-!
Why catalogs cannot be loaded or a message cannot be resolved.
-/

namespace MessageCatalog

inductive CatalogError where
  | catalogNotFound (catalog : String)
  | urlNotText (catalog url : String)
  | remoteCatalog (catalog : String)
  | unknownScheme (catalog : String)
  | messageNotFound (code catalog : String)
  | messageWithoutText (code catalog : String)
  | inserts (cause : InsertError)
  | unreadableIndex (path : String) (cause : ReadError)
  | unreadableCatalog (catalog path : String) (cause : ReadError)
  | malformedDocument (path : String)
  | missingDefaultLocale (catalog : String)
deriving DecidableEq

namespace CatalogError

/-- Whether the inserts of the caller are to blame. -/
def isInsertError : CatalogError → Bool
  | inserts _ => true
  | _ => false

def message : CatalogError → String
  | catalogNotFound catalog => "Catalog " ++ catalog ++ " not found"
  | urlNotText catalog url =>
      "Catalog Index Url not a string: " ++ url ++ " for catalog " ++ catalog
  | remoteCatalog catalog => "Remote catalogs not yet supported for catalog " ++ catalog
  | unknownScheme catalog => "Invalid Catalog Index Url for catalog " ++ catalog
  | messageNotFound code catalog => "Message " ++ code ++ " not found in catalog " ++ catalog
  | messageWithoutText code catalog =>
      "Message " ++ code ++ " found in catalog " ++ catalog ++ " but without message property"
  | inserts cause => cause.message
  | unreadableIndex path cause => "Failed to read catalog index " ++ path ++ ": " ++ cause.message
  | unreadableCatalog catalog path cause =>
      "Failed to read catalog " ++ catalog ++ " from " ++ path ++ ": " ++ cause.message
  | malformedDocument path => "Failed to parse " ++ path
  | missingDefaultLocale catalog => "Catalog " ++ catalog ++ " has no default locale table"

/-- The underlying failure to read a file, if there is one. -/
def readError? : CatalogError → Option ReadError
  | unreadableIndex _ cause => some cause
  | unreadableCatalog _ _ cause => some cause
  | _ => none

end CatalogError

end MessageCatalog
