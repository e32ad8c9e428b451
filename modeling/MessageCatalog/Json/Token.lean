import MessageCatalog.Number.Decimal

/-!
The tokens of JSON text. The text is read character by character; a numeral or a word ends with the
first character that cannot belong to it. String bodies are kept as written up to the closing quote
and then read as a whole. A string may be correctly written and still name no text, when an escape
stands for half of a surrogate pair; numerals are kept as numerals, and made doubles to the nearest
when a value is asked for. So a value that nobody asks for never fails for being out of range.
-/

namespace MessageCatalog.Json

open Text

inductive Token where
  | beginObject
  | endObject
  | beginArray
  | endArray
  | comma
  | colon
  | null
  | boolean (value : Bool)
  | number (numeral : Numeral)
  | text (value : Option String)

def shortEscape? (c : Char) : Option Char :=
  if c = '"' || c = '\\' || c = '/' then some c
  else if c = 'b' then some '\x08'
  else if c = 'f' then some '\x0c'
  else if c = 'n' then some '\n'
  else if c = 'r' then some '\r'
  else if c = 't' then some '\t'
  else none

/-- Every escape is a short one or `u` with four hexadecimal digits. -/
def escapesFit : List Char → Bool
  | [] => true
  | '\\' :: 'u' :: a :: b :: c :: d :: rest =>
      (readDigits? 16 [a, b, c, d]).isSome && escapesFit rest
  | '\\' :: c :: rest => (shortEscape? c).isSome && escapesFit rest
  | ['\\'] => false
  | _ :: rest => escapesFit rest

def isHighSurrogate (unit : Nat) : Bool := 0xD800 ≤ unit && unit ≤ 0xDBFF

def isLowSurrogate (unit : Nat) : Bool := 0xDC00 ≤ unit && unit ≤ 0xDFFF

def ofSurrogates (high low : Nat) : Char :=
  Char.ofNat (0x10000 + (high - 0xD800) * 0x400 + (low - 0xDC00))

def unescape? : List Char → Option (List Char)
  | [] => some []
  | '\\' :: 'u' :: a :: b :: c :: d :: rest =>
      match readDigits? 16 [a, b, c, d] with
      | none => none
      | some unit =>
          if isHighSurrogate unit then
            match rest with
            | '\\' :: 'u' :: e :: f :: g :: h :: rest =>
                match readDigits? 16 [e, f, g, h] with
                | some low =>
                    if isLowSurrogate low then (unescape? rest).map (ofSurrogates unit low :: ·)
                    else none
                | none => none
            | _ => none
          else if isLowSurrogate unit then none
          else (unescape? rest).map (Char.ofNat unit :: ·)
  | '\\' :: c :: rest =>
      match shortEscape? c with
      | some plain => (unescape? rest).map (plain :: ·)
      | none => none
  | c :: rest => (unescape? rest).map (c :: ·)

def isBlank (c : Char) : Bool := c == ' ' || c == '\t' || c == '\n' || c == '\r'

def isWordChar (c : Char) : Bool := 'a' ≤ c && c ≤ 'z'

def isNumeralChar (c : Char) : Bool :=
  isDigit c || c == '-' || c == '+' || c == '.' || c == 'e' || c == 'E'

def word? (characters : List Char) : Option Token :=
  if characters == "null".toList then some .null
  else if characters == "true".toList then some (.boolean true)
  else if characters == "false".toList then some (.boolean false)
  else none

/-- What is being read: nothing, or a numeral, a word or a string with its characters so far, latest
first. In a string, `escaped` says that the last character was an unescaped backslash. -/
inductive Reading where
  | between
  | numeral (characters : List Char)
  | word (characters : List Char)
  | text (characters : List Char) (escaped : Bool)

/-- The tokens so far, latest first. -/
structure Lexer where
  tokens : List Token
  reading : Reading

namespace Lexer

def start : Lexer := ⟨[], .between⟩

/-- Ends a numeral or a word. -/
def settle (lexer : Lexer) : Option Lexer :=
  match lexer.reading with
  | .between => some lexer
  | .numeral characters =>
      (Numeral.ofJson? characters.reverse).map fun numeral =>
        ⟨.number numeral :: lexer.tokens, .between⟩
  | .word characters =>
      (word? characters.reverse).map fun token => ⟨token :: lexer.tokens, .between⟩
  | .text _ _ => none

def begin (tokens : List Token) (c : Char) : Option Lexer :=
  if isBlank c then some ⟨tokens, .between⟩
  else if c = '\x7b' then some ⟨.beginObject :: tokens, .between⟩
  else if c = '\x7d' then some ⟨.endObject :: tokens, .between⟩
  else if c = '[' then some ⟨.beginArray :: tokens, .between⟩
  else if c = ']' then some ⟨.endArray :: tokens, .between⟩
  else if c = ',' then some ⟨.comma :: tokens, .between⟩
  else if c = ':' then some ⟨.colon :: tokens, .between⟩
  else if c = '"' then some ⟨tokens, .text [] false⟩
  else if c = '-' || isDigit c then some ⟨tokens, .numeral [c]⟩
  else if isWordChar c then some ⟨tokens, .word [c]⟩
  else none

/-- Reads one character. -/
def step (lexer : Lexer) (c : Char) : Option Lexer :=
  match lexer.reading with
  | .between => begin lexer.tokens c
  | .numeral characters =>
      if isNumeralChar c then some ⟨lexer.tokens, .numeral (c :: characters)⟩
      else do
        let settled ← lexer.settle
        begin settled.tokens c
  | .word characters =>
      if isWordChar c then some ⟨lexer.tokens, .word (c :: characters)⟩
      else do
        let settled ← lexer.settle
        begin settled.tokens c
  | .text characters escaped =>
      if escaped then some ⟨lexer.tokens, .text (c :: characters) false⟩
      else if c = '"' then
        let body := characters.reverse
        if escapesFit body then
          some ⟨.text ((unescape? body).map String.ofList) :: lexer.tokens, .between⟩
        else none
      else if c.toNat < 0x20 then none
      else some ⟨lexer.tokens, .text (c :: characters) (c = '\\')⟩

end Lexer

/-- The tokens of a text. -/
def tokens? (text : List Char) : Option (List Token) := do
  let lexer ← text.foldlM Lexer.step Lexer.start
  let settled ← lexer.settle
  some settled.tokens.reverse

end MessageCatalog.Json
