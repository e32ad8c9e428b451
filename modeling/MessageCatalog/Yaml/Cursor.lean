import MessageCatalog.Text.Digits
import MessageCatalog.Text.Utf8

/-!
A place in YAML text: what is left to read, how many bytes of UTF-8 lie behind, and the line and the
column in characters. The character classes of YAML stand here too. A line break is a line feed, a
carriage return, both in a row, a next-line character, or a line or paragraph separator.
-/

namespace MessageCatalog.Yaml

open Text

def isBreak (c : Char) : Bool :=
  c == '\n' || c == '\r' || c == '\u0085' || c == '\u2028' || c == '\u2029'

def isBlank (c : Char) : Bool := c == ' ' || c == '\t'

/-- The characters of anchors, tag handles and directive names. -/
def isNameChar (c : Char) : Bool :=
  isDigit c || ('a' ≤ c && c ≤ 'z') || ('A' ≤ c && c ≤ 'Z') || c == '_' || c == '-'

def isBracket (c : Char) : Bool := c == '[' || c == ']' || c == '\x7b' || c == '\x7d'

/-- The characters that may stand in a text at all. -/
def isAllowed (c : Char) : Bool :=
  let code := c.toNat
  code == 0x9 || code == 0xA || code == 0xD || (0x20 ≤ code && code ≤ 0x7E) || code == 0x85 ||
    (0xA0 ≤ code && code ≤ 0xD7FF) || (0xE000 ≤ code && code ≤ 0xFFFD) || 0x10000 ≤ code

structure Cursor where
  rest : List Char
  index : Nat
  line : Nat
  column : Nat

namespace Cursor

def start (text : List Char) : Cursor := ⟨text, 0, 0, 0⟩

def atEnd (cursor : Cursor) : Bool := cursor.rest.isEmpty

/-- Whether the next character satisfies `test`; the end of the text never does. -/
def nextIs (cursor : Cursor) (test : Char → Bool) : Bool := cursor.rest.head?.any test

/-- Whether the character `ahead` places on is a blank, a break or the end of the text. -/
def endsAt (cursor : Cursor) (ahead : Nat) : Bool :=
  match cursor.rest[ahead]? with
  | some c => isBlank c || isBreak c
  | none => true

/-- Goes on within the line. -/
def skip (count : Nat) (cursor : Cursor) : Cursor :=
  ⟨cursor.rest.drop count, cursor.index + byteCount (cursor.rest.take count), cursor.line,
    cursor.column + count⟩

/-- Reads the characters of a line that satisfy `test`. -/
def takeWhile (test : Char → Bool) (cursor : Cursor) : List Char × Cursor :=
  let taken := cursor.rest.takeWhile test
  (taken, cursor.skip taken.length)

def skipWhile (test : Char → Bool) (cursor : Cursor) : Cursor := (cursor.takeWhile test).2

/-- Goes over one line break, if there is one here. -/
def skipBreak (cursor : Cursor) : Cursor :=
  match cursor.rest with
  | '\r' :: '\n' :: rest => ⟨rest, cursor.index + 2, cursor.line + 1, 0⟩
  | c :: rest => if isBreak c then ⟨rest, cursor.index + c.utf8Size, cursor.line + 1, 0⟩ else cursor
  | [] => cursor

/-- The character that the line break here stands for: separators stay, all others are line
feeds. -/
def breakChar (cursor : Cursor) : Char :=
  match cursor.rest with
  | '\u2028' :: _ => '\u2028'
  | '\u2029' :: _ => '\u2029'
  | _ => '\n'

/-- Whether a document mark (three dashes or three dots) stands here at the start of a line. -/
def atMark (mark : Char) (cursor : Cursor) : Bool :=
  cursor.column == 0 && cursor.rest.take 3 == [mark, mark, mark] && cursor.endsAt 3

def atDocumentMark (cursor : Cursor) : Bool := cursor.atMark '-' || cursor.atMark '.'

end Cursor

/-- White space between the words of a scalar: blanks within a line, or line breaks. -/
structure Gap where
  blanks : List Char
  breaks : List Char

namespace Gap

/-- Within a line blanks stay. A single line feed becomes a space, of more the first is dropped; a
separator is kept with all that follows it. -/
def fold (gap : Gap) : List Char :=
  match gap.breaks with
  | [] => gap.blanks
  | '\n' :: [] => [' ']
  | '\n' :: more => more
  | breaks => breaks

/-- Reads blanks and breaks. Blanks before the first break do not count once a break is found, nor
do those behind it. `blocked` says of a cursor behind a break that the tab there is not allowed.
`folded` says that a break has been read already. -/
def read (blocked : Cursor → Bool) : Nat → Bool → Gap → Cursor → Option (Gap × Cursor)
  | 0, _, _, _ => none
  | fuel + 1, folded, gap, cursor =>
      match cursor.rest with
      | [] => some (gap, cursor)
      | c :: _ =>
          if isBlank c then
            if folded then
              if c == '\t' && blocked cursor then none
              else read blocked fuel folded gap (cursor.skip 1)
            else read blocked fuel folded ⟨gap.blanks ++ [c], gap.breaks⟩ (cursor.skip 1)
          else if isBreak c then
            read blocked fuel true ⟨[], gap.breaks ++ [cursor.breakChar]⟩ cursor.skipBreak
          else some (gap, cursor)

def empty : Gap := ⟨[], []⟩

end Gap

end MessageCatalog.Yaml
