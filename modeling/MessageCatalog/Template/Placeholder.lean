/-!
The names of the placeholders of a template. A placeholder is an opening brace, a name without
braces and a closing brace; a second opening brace starts afresh, and an empty name does not count.
-/

namespace MessageCatalog.Template

/-- The name that ends at the first closing brace, unless an opening brace comes before it. -/
def nameAt? (rest : List Char) : Option (List Char) :=
  let chunk := rest.takeWhile (· != '\x7b')
  if chunk.contains '\x7d' then some (chunk.takeWhile (· != '\x7d')) else none

def placeholderNames : List Char → List (List Char)
  | [] => []
  | c :: rest =>
      if c = '\x7b' then
        match nameAt? rest with
        | some (first :: more) => (first :: more) :: placeholderNames rest
        | _ => placeholderNames rest
      else placeholderNames rest

def hasPlaceholders (template : List Char) : Bool := !(placeholderNames template).isEmpty

end MessageCatalog.Template
