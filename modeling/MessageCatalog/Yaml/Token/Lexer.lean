import MessageCatalog.Yaml.Property
import MessageCatalog.Yaml.ScalarText

/-!
YAML text cut into tokens. Block structure follows from columns: a collection opens where its first
entry stands deeper than the one around it and ends at the first token that stands less deep. That a
scalar is a mapping key shows only at the colon behind it, on the same line and at most 1024
bytes on; so the place of every token that may be a key is remembered until then, and the key
mark is put in there afterwards.
-/

namespace MessageCatalog.Yaml

/-- A token that may turn out to be a key: how many tokens stand before it, where it is written, and
whether a colon must follow because it stands where the block mapping expects a key. -/
structure PossibleKey where
  position : Nat
  index : Nat
  line : Nat
  column : Nat
  required : Bool

/-- The tokens are kept latest first; `possible` has one slot for each flow collection still open
and one for the block around them, innermost first. -/
structure Lexer where
  cursor : Cursor
  tokens : List Token
  flowDepth : Nat
  indent : Int
  outerIndents : List Int
  keyAllowed : Bool
  possible : List (Option PossibleKey)

namespace Lexer

def start (text : List Char) : Lexer := ⟨.start text, [], 0, -1, [], true, [none]⟩

def inFlow (lexer : Lexer) : Bool := 0 < lexer.flowDepth

def column (lexer : Lexer) : Int := lexer.cursor.column

def moveTo (cursor : Cursor) (lexer : Lexer) : Lexer := { lexer with cursor }

def allowKey (allowed : Bool) (lexer : Lexer) : Lexer := { lexer with keyAllowed := allowed }

def push (token : Token) (lexer : Lexer) : Lexer := { lexer with tokens := token :: lexer.tokens }

/-- Puts a token in where `position` tokens stand before it. -/
def insertAt (position : Nat) (token : Token) (lexer : Lexer) : Lexer :=
  { lexer with tokens := lexer.tokens.insertIdx (lexer.tokens.length - position) token }

/-- Skips blanks, comments and line breaks. A tab counts as a blank only where no block structure
can start; a line break in block context lets a key follow; a byte order mark may begin a line. -/
def skipSpace : Nat → Bool → Bool → Cursor → Cursor × Bool
  | 0, _, allowed, cursor => (cursor, allowed)
  | fuel + 1, flow, allowed, cursor =>
      let line :=
        if cursor.column = 0 && cursor.nextIs (· == '\ufeff') then cursor.skip 1 else cursor
      let blanks := line.skipWhile fun c => c == ' ' || ((flow || !allowed) && c == '\t')
      let behind :=
        if blanks.nextIs (· == '#') then blanks.skipWhile (fun c => !isBreak c) else blanks
      if behind.nextIs isBreak then skipSpace fuel flow (allowed || !flow) behind.skipBreak
      else (behind, allowed)

def isStale (cursor : Cursor) (key : PossibleKey) : Bool :=
  key.line < cursor.line || key.index + 1024 < cursor.index

/-- Gives up possible keys that are on an earlier line or too far back; a required one is missed. -/
def dropStale (lexer : Lexer) : Option Lexer :=
  let missed := lexer.possible.any fun slot =>
    slot.any fun key => key.required && isStale lexer.cursor key
  if missed then none
  else some { lexer with
    possible := lexer.possible.map fun slot => slot.filter fun key => !isStale lexer.cursor key }

/-- Gives up the innermost possible key. -/
def dropKey (lexer : Lexer) : Option Lexer :=
  match lexer.possible with
  | some key :: outer =>
      if key.required then none else some { lexer with possible := none :: outer }
  | _ => some lexer

/-- Remembers that the next token may be a key. -/
def saveKey (lexer : Lexer) : Option Lexer :=
  if lexer.keyAllowed then do
    let free ← lexer.dropKey
    let key : PossibleKey :=
      { position := lexer.tokens.length
        index := lexer.cursor.index
        line := lexer.cursor.line
        column := lexer.cursor.column
        required := !lexer.inFlow && lexer.indent == lexer.column }
    some { free with possible := some key :: free.possible.drop 1 }
  else some lexer

/-- Ends the block collections that are deeper than `column`. -/
def endBlocks (column : Int) : List Int → Lexer → Lexer
  | [], lexer => lexer
  | outer :: others, lexer =>
      if column < lexer.indent then
        endBlocks column others
          { lexer.push .blockEnd with indent := outer, outerIndents := others }
      else lexer

def unindent (column : Int) (lexer : Lexer) : Lexer :=
  if lexer.inFlow then lexer else endBlocks column lexer.outerIndents lexer

/-- Opens a block collection when `column` is deeper than the one around. -/
def indentTo (column : Int) (position : Nat) (opening : Token) (lexer : Lexer) : Lexer :=
  if !lexer.inFlow && lexer.indent < column then
    { lexer.insertAt position opening with
      indent := column, outerIndents := lexer.indent :: lexer.outerIndents }
  else lexer

/-- A token of one character. -/
def single (token : Token) (lexer : Lexer) : Lexer :=
  (lexer.moveTo (lexer.cursor.skip 1)).push token

def fetchDirective (lexer : Lexer) : Option Lexer := do
  let free ← (lexer.unindent (-1)).dropKey
  let (token, behind) ← readDirective free.cursor
  some (((free.allowKey false).moveTo behind).push token)

def fetchDocumentMark (token : Token) (lexer : Lexer) : Option Lexer := do
  let free ← (lexer.unindent (-1)).dropKey
  some (((free.allowKey false).moveTo (free.cursor.skip 3)).push token)

def fetchFlowStart (token : Token) (lexer : Lexer) : Option Lexer := do
  let saved ← lexer.saveKey
  let deeper := { saved with flowDepth := saved.flowDepth + 1, possible := none :: saved.possible }
  some ((deeper.allowKey true).single token)

def fetchFlowEnd (token : Token) (lexer : Lexer) : Option Lexer := do
  let free ← lexer.dropKey
  let outer :=
    if free.inFlow then
      { free with flowDepth := free.flowDepth - 1, possible := free.possible.drop 1 }
    else free
  some ((outer.allowKey false).single token)

def fetchFlowEntry (lexer : Lexer) : Option Lexer := do
  let free ← lexer.dropKey
  some ((free.allowKey true).single .flowEntry)

def fetchBlockEntry (lexer : Lexer) : Option Lexer :=
  if !lexer.inFlow && !lexer.keyAllowed then none
  else do
    let opened := lexer.indentTo lexer.column lexer.tokens.length .blockSequenceStart
    let free ← opened.dropKey
    some ((free.allowKey true).single .blockEntry)

def fetchKey (lexer : Lexer) : Option Lexer :=
  if !lexer.inFlow && !lexer.keyAllowed then none
  else do
    let opened := lexer.indentTo lexer.column lexer.tokens.length .blockMappingStart
    let free ← opened.dropKey
    some ((free.allowKey (!free.inFlow)).single .key)

def fetchValue (lexer : Lexer) : Option Lexer :=
  match lexer.possible with
  | some key :: outer =>
      let marked := { lexer with possible := none :: outer }.insertAt key.position .key
      let opened := marked.indentTo key.column key.position .blockMappingStart
      some ((opened.allowKey false).single .value)
  | _ =>
      if !lexer.inFlow && !lexer.keyAllowed then none
      else
        let opened := lexer.indentTo lexer.column lexer.tokens.length .blockMappingStart
        some ((opened.allowKey (!opened.inFlow)).single .value)

def fetchAnchor (make : List Char → Token) (lexer : Lexer) : Option Lexer := do
  let saved ← lexer.saveKey
  let (name, behind) ← readAnchorName saved.cursor
  some (((saved.allowKey false).moveTo behind).push (make name))

def fetchTag (lexer : Lexer) : Option Lexer := do
  let saved ← lexer.saveKey
  let (token, behind) ← readTag saved.inFlow saved.cursor
  some (((saved.allowKey false).moveTo behind).push token)

def fetchBlockScalar (folded : Bool) (lexer : Lexer) : Option Lexer := do
  let free ← lexer.dropKey
  let (text, behind) ← readBlock folded free.indent free.cursor
  let style := if folded then ScalarStyle.folded else .literal
  some (((free.allowKey true).moveTo behind).push (.scalar style text))

def fetchQuoted (apostrophe : Bool) (lexer : Lexer) : Option Lexer := do
  let saved ← lexer.saveKey
  let (text, behind) ← readQuoted apostrophe saved.cursor
  some (((saved.allowKey false).moveTo behind).push (.scalar .quoted text))

def fetchPlain (lexer : Lexer) : Option Lexer := do
  let saved ← lexer.saveKey
  let (text, broken, behind) ← readPlain saved.inFlow (saved.indent + 1) saved.cursor
  some (((saved.allowKey broken).moveTo behind).push (.scalar .plain text))

def isIndicator (c : Char) : Bool :=
  isBracket c || "-?:,#&*!|>'\"%@".toList.contains c || c.toNat == 0x60

/-- No plain scalar begins with a blank or an indicator, unless that is a dash, question mark or
colon with something behind it. -/
def beginsPlain (lexer : Lexer) (c : Char) : Bool :=
  let next := (lexer.cursor.rest.drop 1).head?
  !(isIndicator c || isBlank c || isBreak c) || (c == '-' && !next.any isBlank) ||
    (!lexer.inFlow && (c == '?' || c == ':') && !lexer.cursor.endsAt 1)

/-- Reads the token that begins with `c`. -/
def fetch (lexer : Lexer) (c : Char) : Option Lexer :=
  let alone := lexer.cursor.endsAt 1
  if c == '%' && lexer.cursor.column == 0 then lexer.fetchDirective
  else if lexer.cursor.atMark '-' then lexer.fetchDocumentMark .documentStart
  else if lexer.cursor.atMark '.' then lexer.fetchDocumentMark .documentEnd
  else if c == '[' then lexer.fetchFlowStart .flowSequenceStart
  else if c == '\x7b' then lexer.fetchFlowStart .flowMappingStart
  else if c == ']' then lexer.fetchFlowEnd .flowSequenceEnd
  else if c == '\x7d' then lexer.fetchFlowEnd .flowMappingEnd
  else if c == ',' then lexer.fetchFlowEntry
  else if c == '-' && alone then lexer.fetchBlockEntry
  else if c == '?' && (lexer.inFlow || alone) then lexer.fetchKey
  else if c == ':' && (lexer.inFlow || alone) then lexer.fetchValue
  else if c == '*' then lexer.fetchAnchor .alias
  else if c == '&' then lexer.fetchAnchor .anchor
  else if c == '!' then lexer.fetchTag
  else if c == '|' && !lexer.inFlow then lexer.fetchBlockScalar false
  else if c == '>' && !lexer.inFlow then lexer.fetchBlockScalar true
  else if c == '\'' then lexer.fetchQuoted true
  else if c == '"' then lexer.fetchQuoted false
  else if lexer.beginsPlain c then lexer.fetchPlain
  else none

/-- Reads token after token; at the end of the text all block collections end. -/
def run : Nat → Lexer → Option (List Token)
  | 0, _ => none
  | fuel + 1, lexer => do
      let (cursor, allowed) :=
        skipSpace (lexer.cursor.rest.length + 1) lexer.inFlow lexer.keyAllowed lexer.cursor
      let fresh ← ((lexer.moveTo cursor).allowKey allowed).dropStale
      let placed := fresh.unindent fresh.column
      match cursor.rest with
      | [] => do
          let closed ← (placed.unindent (-1)).dropKey
          some closed.tokens.reverse
      | c :: _ => do
          let next ← placed.fetch c
          run fuel next

end Lexer

/-- The tokens of a text, whose characters must all be allowed. -/
def tokens? (text : List Char) : Option (List Token) :=
  if text.all isAllowed then (Lexer.start text).run (text.length + 1) else none

end MessageCatalog.Yaml
