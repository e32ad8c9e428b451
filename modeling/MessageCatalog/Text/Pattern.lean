import MessageCatalog.Text.Alphanumeric
import MessageCatalog.Text.Blank
import MessageCatalog.Text.Digits

/-!
Search patterns: which texts are well formed. A pattern is a row of items (characters, escapes,
classes in brackets, groups in parentheses) with bars between alternatives, and an item may be
repeated. Flags hold from where they are set to the end of the group around them. An open brace has
no counterpart and is refused outside a class, and so is a word boundary where words are made of all
the letters of Unicode.
-/

namespace MessageCatalog.Text.Pattern

/-- The flags that decide what is well formed: whether blanks and comments are passed over, and
whether a pattern speaks of characters or of single bytes. -/
structure Flags where
  spaced : Bool
  unicode : Bool

namespace Flags

def standard : Flags := ⟨false, true⟩

def set (flag : Char) (value : Bool) (flags : Flags) : Flags :=
  if flag = 'x' then { flags with spaced := value }
  else if flag = 'u' then { flags with unicode := value }
  else flags

end Flags

/-- Drops blanks and comments; a comment runs from a number sign to the end of the line. -/
def dropSpace (inComment : Bool) : List Char → List Char
  | [] => []
  | c :: rest =>
      if inComment then dropSpace (c != '\n') rest
      else if c = '#' then dropSpace true rest
      else if isBlank c then dropSpace false rest
      else c :: rest

def skipSpace (flags : Flags) (text : List Char) : List Char :=
  if flags.spaced then dropSpace false text else text

/-- What an escape or a plain character stands for: itself, a set of characters, a place in the
text, or a boundary of words. -/
inductive Item where
  | literal (c : Char)
  | set
  | edge
  | boundary

/-- The digits of a character number. -/
def takeHex? (flags : Flags) : Nat → List Char → Option (List Char × List Char)
  | 0, text => some ([], text)
  | count + 1, text =>
      match skipSpace flags text with
      | [] => none
      | c :: rest => (takeHex? flags count rest).map fun (more, behind) => (c :: more, behind)

/-- A character by its number. Where patterns speak of bytes two digits are a byte, and no byte
beyond ASCII is a text by itself. -/
def readHex? (flags : Flags) (count : Nat) (text : List Char) : Option (Item × List Char) := do
  let (digits, rest) ← takeHex? flags count text
  let code ← readDigits? 16 digits
  let valid := code < 0xD800 || (0xE000 ≤ code && code < 0x110000)
  if valid && (flags.unicode || count != 2 || code < 0x80) then
    some (.literal (Char.ofNat code), skipSpace flags rest)
  else none

/-- A general category by its letter. -/
def readCategory? (flags : Flags) (text : List Char) : Option (Item × List Char) :=
  match skipSpace flags text with
  | [] => none
  | c :: rest =>
      if flags.unicode && "clmnpsz".toList.contains c.toLower then some (.set, skipSpace flags rest)
      else none

def controlEscape? (c : Char) : Option Char :=
  ("aftnrv".toList.zip ['\x07', '\x0c', '\t', '\n', '\r', '\x0b']).lookup c

/-- An escape, behind the backslash. The complement of a class is not within ASCII. -/
def readEscape? (flags : Flags) : List Char → Option (Item × List Char)
  | [] => none
  | c :: rest =>
      if c = 'x' then readHex? flags 2 rest
      else if c = 'u' then readHex? flags 4 rest
      else if c = 'U' then readHex? flags 8 rest
      else if c = 'p' || c = 'P' then readCategory? flags rest
      else if "dsw".toList.contains c then some (.set, rest)
      else if "DSW".toList.contains c then if flags.unicode then some (.set, rest) else none
      else if "Az".toList.contains c then some (.edge, rest)
      else if "bB<>".toList.contains c then some (.boundary, rest)
      else if c.toNat < 0x80 && !c.isAlphanum then some (.literal c, rest)
      else (controlEscape? c).map fun control => (.literal control, rest)

def classNames : List String :=
  ["alnum", "alpha", "ascii", "blank", "cntrl", "digit", "graph", "lower", "print", "punct",
    "space", "upper", "word", "xdigit"]

/-- A named class, behind the bracket: whether it is a complement, and the rest. -/
def readNamedClass? : List Char → Option (Bool × List Char)
  | ':' :: text =>
      let negated := text.head? == some '^'
      let name := if negated then text.drop 1 else text
      match name.dropWhile (· != ':') with
      | ':' :: ']' :: rest =>
          if classNames.contains (String.ofList (upTo (· == ':') name)) then some (negated, rest)
          else none
      | _ => none
  | _ => none

/-- Hyphens at the start of a class are members, and so is a closing bracket where no hyphen is. -/
def dropFirstMembers (flags : Flags) : Nat → Bool → List Char → List Char
  | 0, _, text => text
  | fuel + 1, found, text =>
      match skipSpace flags text with
      | '-' :: rest => dropFirstMembers flags fuel true rest
      | ']' :: rest => if found then ']' :: rest else rest
      | text => text

/-- The start of a class, behind the bracket: perhaps a caret, and the members that only a start can
have. -/
def openClass? (flags : Flags) (text : List Char) : Option (List Char) :=
  let start := skipSpace flags text
  let negated := start.head? == some '^'
  if negated && !flags.unicode then none
  else
    some (dropFirstMembers flags (text.length + 1) false (if negated then start.drop 1 else start))

def readMember? (flags : Flags) : List Char → Option (Item × List Char)
  | [] => none
  | c :: rest => do
      let (item, rest) ← if c = '\\' then readEscape? flags rest else some (.literal c, rest)
      match item with
      | .literal member => if flags.unicode || member.toNat < 0x80 then some (item, rest) else none
      | _ => some (item, rest)

/-- A member of a class or a range of members. A hyphen before a closing bracket or before another
hyphen makes no range. -/
def readRange? (flags : Flags) (text : List Char) : Option (List Char) := do
  let (first, rest) ← readMember? flags text
  let rest := skipSpace flags rest
  let last := skipSpace flags (rest.drop 1)
  if rest.head? == some '-' && !(last.head? == some ']' || last.head? == some '-') then do
    let (last, behind) ← readMember? flags last
    match first, last with
    | .literal low, .literal high => if low ≤ high then some behind else none
    | _, _ => none
  else
    match first with
    | .literal _ | .set => some rest
    | .edge | .boundary => none

/-- The rest of a class, up to its closing bracket; `depth` counts the classes around it. -/
def closeClass? (flags : Flags) : Nat → Nat → List Char → Option (List Char)
  | 0, _, _ => none
  | fuel + 1, depth, text =>
      match skipSpace flags text with
      | [] => none
      | '[' :: rest =>
          match readNamedClass? rest with
          | some (negated, rest) =>
              if negated && !flags.unicode then none else closeClass? flags fuel depth rest
          | none => (openClass? flags rest).bind (closeClass? flags fuel (depth + 1))
      | ']' :: rest => if depth = 0 then some rest else closeClass? flags fuel (depth - 1) rest
      | '&' :: '&' :: rest => closeClass? flags fuel depth rest
      | '-' :: '-' :: rest => closeClass? flags fuel depth rest
      | '~' :: '~' :: rest => closeClass? flags fuel depth rest
      | text => (readRange? flags text).bind (closeClass? flags fuel depth)

/-- Where a scan stands: the flags in force, those around the open groups from inside out, the names
of groups so far, and whether an item stands before that can be repeated. -/
structure Scan where
  flags : Flags
  outer : List Flags
  names : List (List Char)
  repeatable : Bool

namespace Scan

def start : Scan := ⟨.standard, [], [], false⟩

def item (scan : Scan) : Scan := { scan with repeatable := true }

def enter (flags : Flags) (scan : Scan) : Scan :=
  { scan with flags, outer := scan.flags :: scan.outer, repeatable := false }

/-- The name of a group, up to the angle bracket. -/
def readName? (scan : Scan) (text : List Char) : Option (Scan × List Char) :=
  let name := upTo (· == '>') text
  let fits := match name with
    | [] => false
    | first :: more =>
        (first == '_' || isAlphabetic first) &&
          more.all fun c => c == '_' || c == '.' || c == '[' || c == ']' || isAlphanumeric c
  match text.drop name.length with
  | '>' :: rest =>
      if fits && !scan.names.contains name then
        some (({ scan with names := name :: scan.names } : Scan).enter scan.flags, rest)
      else none
  | _ => none

/-- Flags up to a colon or a closing parenthesis, which is left; a hyphen turns the flags behind it
off. `bare` says that nothing stands behind the hyphen yet. -/
def readFlags? (seen : List Char) (value bare : Bool) (flags : Flags) :
    List Char → Option (Flags × List Char)
  | [] => none
  | c :: rest =>
      if c = ':' || c = ')' then if bare then none else some (flags, c :: rest)
      else if c = '-' then if value then readFlags? seen false true flags rest else none
      else if "imsUuRx".toList.contains c && !seen.contains c then
        readFlags? (c :: seen) value false (flags.set c value) rest
      else none

/-- What an open parenthesis begins: a group, which may have a name or flags of its own, or flags
for the rest of the group around it. -/
def openGroup? (scan : Scan) (text : List Char) : Option (Scan × List Char) :=
  match skipSpace scan.flags text with
  | '?' :: 'P' :: '<' :: rest => scan.readName? rest
  | '?' :: '<' :: rest => scan.readName? rest
  | '?' :: ')' :: _ => none
  | '?' :: rest => do
      match ← readFlags? [] true false scan.flags rest with
      | (flags, ':' :: rest) => some (scan.enter flags, rest)
      | (flags, rest) => some ({ scan with flags, repeatable := false }, rest.drop 1)
  | text => some (scan.enter scan.flags, text)

/-- Reads one item, bar, parenthesis or repetition. -/
def step? (scan : Scan) : List Char → Option (Scan × List Char)
  | [] => none
  | '(' :: rest => scan.openGroup? rest
  | ')' :: rest =>
      match scan.outer with
      | [] => none
      | flags :: outer => some ({ scan with flags, outer, repeatable := true }, rest)
  | '|' :: rest => some ({ scan with repeatable := false }, rest)
  | '[' :: rest => do
      let members ← openClass? scan.flags rest
      let behind ← closeClass? scan.flags (rest.length + 1) 0 members
      some (scan.item, behind)
  | '\\' :: rest => do
      match ← readEscape? scan.flags rest with
      | (.boundary, rest) => if scan.flags.unicode then none else some (scan.item, rest)
      | (_, rest) => some (scan.item, rest)
  | c :: rest =>
      if c = '*' || c = '+' || c = '?' then
        if scan.repeatable then some (scan, if rest.head? == some '?' then rest.drop 1 else rest)
        else none
      else if c = '\x7b' || (c = '.' && !scan.flags.unicode) then none
      else some (scan.item, rest)

def run : Nat → Scan → List Char → Bool
  | 0, _, _ => false
  | fuel + 1, scan, text =>
      match skipSpace scan.flags text with
      | [] => scan.outer.isEmpty
      | text =>
          match scan.step? text with
          | some (next, rest) => run fuel next rest
          | none => false

end Scan

def wellFormed (text : List Char) : Bool := Scan.run (text.length + 1) .start text

end MessageCatalog.Text.Pattern
