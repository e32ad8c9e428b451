import MessageCatalog.Yaml.Cursor
import MessageCatalog.Yaml.Token

/-!
Node properties and directives: anchors, aliases, tags, the version directive and tag directives.
Each reader takes a cursor at the indicator and returns the token and the cursor behind it.
-/

namespace MessageCatalog.Yaml

open Text

/-- The name of an anchor or alias, behind its indicator. -/
def readAnchorName (cursor : Cursor) : Option (List Char × Cursor) :=
  let (name, behind) := (cursor.skip 1).takeWhile isNameChar
  let ends := behind.endsAt 0 ||
    behind.nextIs fun c => "?:,]%@".toList.contains c || c == '\x7d' || c.toNat == 0x60
  if name.isEmpty || !ends then none else some (name, behind)

def isUriChar (verbatim : Bool) (c : Char) : Bool :=
  isNameChar c || ";/?:@&=+$.%!~*'()".toList.contains c ||
    (verbatim && (c == ',' || c == '[' || c == ']'))

def escapedByte? : List Char → Option Nat
  | '%' :: high :: low :: _ => readDigits? 16 [high, low]
  | _ => none

/-- The number of bytes of a UTF-8 sequence that begins with this byte. -/
def sequenceLength? (byte : Nat) : Option Nat :=
  if byte < 0x80 then some 1
  else if 0xC0 ≤ byte && byte < 0xE0 then some 2
  else if 0xE0 ≤ byte && byte < 0xF0 then some 3
  else if 0xF0 ≤ byte && byte < 0xF8 then some 4
  else none

/-- The continuation bytes of an escaped character, which are escaped too. -/
def continuationBytes? : Nat → List Char → Option (List Nat)
  | 0, _ => some []
  | count + 1, text => do
      let byte ← escapedByte? text
      let more ← continuationBytes? count (text.drop 3)
      if 0x80 ≤ byte && byte < 0xC0 then some (byte :: more) else none

/-- One character written as percent-escaped bytes, and how many characters it takes. -/
def readEscapedChar (text : List Char) : Option (List Char × Nat) := do
  let first ← escapedByte? text
  let length ← sequenceLength? first
  let more ← continuationBytes? (length - 1) (text.drop 3)
  let bytes := (first :: more).map Nat.toUInt8
  let decoded ← String.fromUTF8? ⟨bytes.toArray⟩
  some (decoded.toList, 3 * length)

/-- The characters of a tag, with percent escapes decoded. -/
def readUri (verbatim : Bool) : Nat → Cursor → Option (List Char × Cursor)
  | 0, _ => none
  | fuel + 1, cursor =>
      match cursor.rest with
      | [] => some ([], cursor)
      | c :: _ =>
          if !isUriChar verbatim c then some ([], cursor)
          else if c == '%' then do
            let (decoded, width) ← readEscapedChar cursor.rest
            let (more, behind) ← readUri verbatim fuel (cursor.skip width)
            some (decoded ++ more, behind)
          else do
            let (more, behind) ← readUri verbatim fuel (cursor.skip 1)
            some (c :: more, behind)

def uri (verbatim : Bool) (cursor : Cursor) : Option (List Char × Cursor) :=
  readUri verbatim (cursor.rest.length + 1) cursor

/-- An exclamation mark, name characters, and perhaps a closing exclamation mark. -/
def readHandle (cursor : Cursor) : Option (List Char × Cursor) :=
  if cursor.nextIs (· == '!') then
    let (name, behind) := (cursor.skip 1).takeWhile isNameChar
    if behind.nextIs (· == '!') then some ('!' :: name ++ ['!'], behind.skip 1)
    else some ('!' :: name, behind)
  else none

def isClosedHandle (handle : List Char) : Bool := 2 ≤ handle.length && handle.getLast? == some '!'

/-- A tag: verbatim between angle brackets, or a handle with a suffix. What looks like a handle but
is not closed belongs to the suffix of the primary handle; a lone exclamation mark has an empty
handle. -/
def readTag (flow : Bool) (cursor : Cursor) : Option (Token × Cursor) := do
  let (token, behind) ←
    if (cursor.rest.drop 1).head? == some '<' then do
      let (suffix, behind) ← uri true (cursor.skip 2)
      if suffix.isEmpty || !behind.nextIs (· == '>') then none
      else some (Token.tag [] suffix, behind.skip 1)
    else do
      let (handle, behind) ← readHandle cursor
      let (suffix, after) ← uri false behind
      if isClosedHandle handle then
        if suffix.isEmpty then none else some (Token.tag handle suffix, after)
      else
        let whole := handle.drop 1 ++ suffix
        if whole.isEmpty then some (Token.tag [] ['!'], after)
        else some (Token.tag ['!'] whole, after)
  if behind.endsAt 0 || (flow && behind.nextIs (· == ',')) then some (token, behind) else none

/-- The rest of a directive line: blanks and a comment. -/
def endDirective (cursor : Cursor) : Option Cursor :=
  let blanks := cursor.skipWhile isBlank
  let behind := if blanks.nextIs (· == '#') then blanks.skipWhile (fun c => !isBreak c) else blanks
  if behind.atEnd then some behind
  else if behind.nextIs isBreak then some behind.skipBreak
  else none

def readVersionNumber (cursor : Cursor) : Option (Nat × Cursor) := do
  let (digits, behind) := cursor.takeWhile isDigit
  let value ← readDigits? 10 digits
  if digits.length ≤ 9 then some (value, behind) else none

def readVersion (cursor : Cursor) : Option (Token × Cursor) := do
  let (major, behind) ← readVersionNumber (cursor.skipWhile isBlank)
  if !behind.nextIs (· == '.') then none
  else
    let (minor, after) ← readVersionNumber (behind.skip 1)
    some (.versionDirective major minor, after)

def readTagDirective (cursor : Cursor) : Option (Token × Cursor) := do
  let (handle, behind) ← readHandle (cursor.skipWhile isBlank)
  if !(handle == ['!'] || isClosedHandle handle) || !behind.nextIs isBlank then none
  else
    let (stem, after) ← uri true (behind.skipWhile isBlank)
    if stem.isEmpty || !after.endsAt 0 then none else some (.tagDirective handle stem, after)

/-- A directive line; only the version and tag directives are known. -/
def readDirective (cursor : Cursor) : Option (Token × Cursor) := do
  let (name, behind) := (cursor.skip 1).takeWhile isNameChar
  if !behind.endsAt 0 then none
  else
    let (token, after) ←
      if name == "YAML".toList then readVersion behind
      else if name == "TAG".toList then readTagDirective behind
      else none
    let next ← endDirective after
    some (token, next)

end MessageCatalog.Yaml
