/-!
Paths as text. Joining, the parent directory and the extension keep the spelling of the path, so
that error messages show it as it was given; slashes and lone dots count only where they separate.
-/

namespace MessageCatalog.Path

/-- The parts between slashes; empty parts are kept. -/
def split : List Char → List (List Char)
  | [] => [[]]
  | c :: rest =>
      if c = '/' then [] :: split rest
      else
        match split rest with
        | [] => [[c]]
        | part :: parts => (c :: part) :: parts

def unsplit : List (List Char) → List Char
  | [] => []
  | [part] => part
  | part :: parts => part ++ '/' :: unsplit parts

def isAbsolute (path : List Char) : Bool := path.head? == some '/'

/-- An absolute path replaces the base. A slash is put between unless the base is empty or already
ends with one, also before an empty path. -/
def join (base path : List Char) : List Char :=
  if isAbsolute path || base.isEmpty then path
  else if base.getLast? == some '/' then base ++ path
  else base ++ '/' :: path

/-- A path that is not absolute never loses the base it is joined to. -/
theorem prefix_join (base path : List Char) (relative : isAbsolute path = false) :
    base <+: join base path := by
  unfold join
  rw [relative]
  by_cases bare : base.isEmpty
  · have same : base = [] := List.isEmpty_iff.mp bare
    simp [same]
  · rw [Bool.false_or, if_neg bare]
    split
    · exact List.prefix_append base path
    · exact List.prefix_append base ('/' :: path)

/-- The root or the dot a path begins with, and the rest. -/
def splitHead : List Char → List Char × List Char
  | '/' :: rest => (['/'], rest)
  | ['.'] => (['.'], [])
  | '.' :: '/' :: rest => (['.'], '/' :: rest)
  | path => ([], path)

/-- Parts without the empty and the lone dots at the end. -/
def trimParts (parts : List (List Char)) : List (List Char) :=
  (parts.reverse.dropWhile fun part => part.isEmpty || part == ['.']).reverse

/-- The path without its last component; an empty path and the root have no parent. -/
def parent? (path : List Char) : Option (List Char) :=
  let (head, rest) := splitHead path
  match trimParts (split rest) with
  | [] => if head == ['.'] then some [] else none
  | parts => some (head ++ unsplit (trimParts parts.dropLast))

/-- The last component, unless it is the root, a lone dot or the parent's double dot. -/
def fileName? (path : List Char) : Option (List Char) :=
  match (trimParts (split (splitHead path).2)).getLast? with
  | some ['.', '.'] => none
  | other => other

/-- What follows the last dot of the file name; a dot at its start begins no extension. -/
def extension? (path : List Char) : Option (List Char) := do
  let name ← fileName? path
  let reversed := name.reverse
  match reversed.dropWhile (· != '.') with
  | [] => none
  | [_] => none
  | _ => some (reversed.takeWhile (· != '.')).reverse

end MessageCatalog.Path
