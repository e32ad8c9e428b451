import MessageCatalog.Catalog.Library
import MessageCatalog.Catalog.Message
import MessageCatalog.CodedError
import MessageCatalog.Template.Substitution

/-!
Resolving a code to a message. The stages are the lookup of the entry, its text, the compilation of
the inserts and the substitution, and the first stage that fails decides the error. The inserts of
an entry are written over those of the caller.
-/

namespace MessageCatalog

structure Request where
  catalog : String
  code : String
  named : NamedInserts
  positional : PositionalInserts
  locale : Option String
  verbose : Bool

namespace Library

open Template

variable [KeySize]

def lookup (library : Library) (catalog code : String) (locale : Option String) :
    Except CatalogError Entry := do
  library.check catalog
  match library.findEntry? catalog code locale with
  | some entry => .ok entry
  | none => .error (.messageNotFound code catalog)

/-- The text of an entry, which must not be empty. -/
def textOf (entry : Entry) (catalog code : String) : Except CatalogError String :=
  match entry.message with
  | some text => if text.isEmpty then .error (.messageWithoutText code catalog) else .ok text
  | none => .error (.messageWithoutText code catalog)

/-- The caller's inserts with the entry's own written over them. -/
def context (entry : Entry) (named : NamedInserts) : NamedInserts :=
  match entry.namedInserts with
  | some own => named.overlay own
  | none => named

def blameInserts {Value : Type} : Except InsertError Value → Except CatalogError Value
  | .ok value => .ok value
  | .error cause => .error (.inserts cause)

def fillIn (entry : Entry) (text : String) (substitution : Substitution)
    (context : Option NamedInserts) : Message where
  message := substitution.render text
  action := entry.action.map substitution.render
  detail := entry.detail.map substitution.render
  url := entry.url
  namedInserts := context
  extra := entry.extra

def resolve (library : Library) (request : Request) : Except CatalogError Message := do
  let entry ← library.lookup request.catalog request.code request.locale
  let text ← textOf entry request.catalog request.code
  let inserts := context entry request.named
  let substitution ← blameInserts (Substitution.ofInserts inserts request.positional)
  .ok (fillIn entry text substitution (if request.verbose then some inserts else none))

/-- Inserts that came as documents are read after the lookup, the named ones first. -/
def resolveRaw (library : Library) (catalog code : String) (named positional : Option Json)
    (locale : Option String) (verbose : Bool) : Except CatalogError Message := do
  let _ ← library.lookup catalog code locale
  let named ← blameInserts (NamedInserts.ofRaw named)
  let positional ← blameInserts (PositionalInserts.ofRaw positional)
  library.resolve ⟨catalog, code, named, positional, locale, verbose⟩

/-- The message for a coded error, without the insert context. -/
def resolveCoded (library : Library) (error : CodedError) (locale : Option String) :
    Except CatalogError Message :=
  library.resolve ⟨error.catalog, error.code, error.named, error.positional, locale, false⟩

end Library

end MessageCatalog
