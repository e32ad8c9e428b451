import MessageCatalog.Yaml.Cursor

/-!
The text of scalars in the written styles: plain, single and double quoted, literal and folded. Each
reader takes a cursor at the start of a scalar and returns the text and the cursor behind it. The
first argument of a recursive reader bounds its steps by the length of the text.
-/

namespace MessageCatalog.Yaml

open Text

/-! Plain scalars. -/

/-- One word of a plain scalar. It ends before a blank or break, before a colon with a blank behind
it, and in flow context before a bracket or comma, where a colon must not touch an indicator. -/
def plainWord (flow : Bool) : List Char → Option (List Char × List Char)
  | [] => some ([], [])
  | c :: rest =>
      let touches := rest.head?.any fun d => d == ',' || d == '?' || isBracket d
      let ends := rest.head?.all fun d => isBlank d || isBreak d
      if isBlank c || isBreak c then some ([], c :: rest)
      else if flow && c == ':' && touches then none
      else if (c == ':' && ends) || (flow && (c == ',' || isBracket c)) then some ([], c :: rest)
      else (plainWord flow rest).map fun (word, rest) => (c :: word, rest)

/-- The words behind the gap `before`. Besides the text and the cursor the result says whether a
line break stands behind the scalar. -/
def plainWords (flow : Bool) (indent : Int) :
    Nat → Gap → List Char → Cursor → Option (List Char × Bool × Cursor)
  | 0, _, _, _ => none
  | fuel + 1, before, text, cursor => do
      if cursor.atDocumentMark || cursor.nextIs (· == '#') then
        some (text, !before.breaks.isEmpty, cursor)
      else
        let (word, rest) ← plainWord flow cursor.rest
        let joined := if word.isEmpty then text else text ++ before.fold ++ word
        let behind := cursor.skip word.length
        let gap := if word.isEmpty then before else .empty
        match rest with
        | [] => some (joined, !gap.breaks.isEmpty, behind)
        | c :: _ =>
            if isBlank c || isBreak c then do
              let (next, after) ← Gap.read (fun place => (place.column : Int) < indent)
                (behind.rest.length + 1) (!gap.breaks.isEmpty) gap behind
              if !flow && (after.column : Int) < indent then
                some (joined, !next.breaks.isEmpty, after)
              else plainWords flow indent fuel next joined after
            else some (joined, !gap.breaks.isEmpty, behind)

/-- A plain scalar; behind a line break its lines must be indented by `indent` at least. -/
def readPlain (flow : Bool) (indent : Int) (cursor : Cursor) : Option (List Char × Bool × Cursor) :=
  plainWords flow indent (cursor.rest.length + 1) .empty [] cursor

/-! Quoted scalars. -/

def simpleEscape? (c : Char) : Option Char :=
  match c with
  | '0' => some '\x00'
  | 'a' => some '\x07'
  | 'b' => some '\x08'
  | 't' => some '\t'
  | '\t' => some '\t'
  | 'n' => some '\n'
  | 'v' => some '\x0b'
  | 'f' => some '\x0c'
  | 'r' => some '\r'
  | 'e' => some '\x1b'
  | ' ' => some ' '
  | '"' => some '"'
  | '/' => some '/'
  | '\\' => some '\\'
  | 'N' => some '\u0085'
  | '_' => some '\u00a0'
  | 'L' => some '\u2028'
  | 'P' => some '\u2029'
  | _ => none

def codeWidth? (c : Char) : Option Nat :=
  match c with
  | 'x' => some 2
  | 'u' => some 4
  | 'U' => some 8
  | _ => none

/-- The character that an escape stands for and the number of characters behind the backslash. -/
def readEscape : List Char → Option (Char × Nat)
  | [] => none
  | c :: rest =>
      match codeWidth? c with
      | some width => do
          let digits := rest.take width
          let code ← readDigits? 16 digits
          if digits.length = width && code.isValidChar then some (Char.ofNat code, width + 1)
          else none
      | none => (simpleEscape? c).map fun plain => (plain, 1)

/-- Where a run of non-blank characters of a quoted scalar ended. -/
inductive QuotedEnd where
  | blank
  | quote
  | escapedBreak

def quotedRun (single : Bool) : Nat → Cursor → Option (List Char × QuotedEnd × Cursor)
  | 0, _ => none
  | fuel + 1, cursor =>
      match cursor.rest with
      | [] => some ([], .blank, cursor)
      | c :: rest =>
          let onwards (plain : Char) (width : Nat) :=
            (quotedRun single fuel (cursor.skip width)).map fun (run, result) =>
              (plain :: run, result)
          if isBlank c || isBreak c then some ([], .blank, cursor)
          else if single then
            if c == '\'' then
              if rest.head? == some '\'' then onwards '\'' 2 else some ([], .quote, cursor)
            else onwards c 1
          else if c == '"' then some ([], .quote, cursor)
          else if c == '\\' then
            if rest.head?.any isBreak then some ([], .escapedBreak, (cursor.skip 1).skipBreak)
            else do
              let (plain, width) ← readEscape rest
              onwards plain (width + 1)
          else onwards c 1

/-- The rest of a quoted scalar. A line must not start with a document mark. -/
def quotedRuns (single : Bool) : Nat → List Char → Cursor → Option (List Char × Cursor)
  | 0, _, _ => none
  | fuel + 1, text, cursor => do
      if cursor.atDocumentMark || cursor.atEnd then none
      else
        let length := cursor.rest.length + 1
        match ← quotedRun single length cursor with
        | (run, .quote, behind) => some (text ++ run, behind.skip 1)
        | (run, .blank, behind) => do
            let (gap, after) ← Gap.read (fun _ => false) length false .empty behind
            quotedRuns single fuel (text ++ run ++ gap.fold) after
        | (run, .escapedBreak, behind) => do
            if behind.nextIs (· == '"') then some (text ++ run, behind.skip 1)
            else
              let (gap, after) ← Gap.read (fun _ => false) length true .empty behind
              quotedRuns single fuel (text ++ run ++ gap.breaks) after

/-- A quoted scalar, from the opening quote to the closing one. -/
def readQuoted (single : Bool) (cursor : Cursor) : Option (List Char × Cursor) :=
  quotedRuns single (cursor.rest.length + 1) [] (cursor.skip 1)

/-! Literal and folded scalars. -/

/-- What becomes of the line breaks at the end. -/
inductive Chomping where
  | strip
  | clip
  | keep

def chomping? (c : Char) : Option Chomping :=
  if c == '+' then some .keep else if c == '-' then some .strip else none

/-- The chomping and indentation indicators, in either order. An indentation of zero is refused. -/
def readBlockHeader (cursor : Cursor) : Option (Chomping × Nat × Cursor) :=
  let digit? (cursor : Cursor) : Option (Nat × Cursor) :=
    match cursor.rest with
    | c :: _ =>
        if isDigit c then
          if c == '0' then none else some (c.toNat - '0'.toNat, cursor.skip 1)
        else some (0, cursor)
    | [] => some (0, cursor)
  match cursor.rest.head?.bind chomping? with
  | some chomping =>
      (digit? (cursor.skip 1)).map fun (increment, behind) => (chomping, increment, behind)
  | none => do
      let (increment, behind) ← digit? cursor
      match behind.rest.head?.bind chomping? with
      | some chomping =>
          if increment = 0 then some (.clip, 0, behind)
          else some (chomping, increment, behind.skip 1)
      | none => some (.clip, increment, behind)

/-- Empty lines and the indentation of the next line. Without a known `indent` all spaces count and
`deepest` is the greatest column seen. -/
def blockBreaks (indent : Nat) : Nat → Nat → List Char → Cursor → Option (List Char × Nat × Cursor)
  | 0, _, _, _ => none
  | fuel + 1, deepest, breaks, cursor =>
      let spaces := (cursor.rest.takeWhile (· == ' ')).length
      let room := if indent = 0 then spaces else min spaces (indent - cursor.column)
      let behind := cursor.skip room
      let deepest := max deepest behind.column
      if (indent = 0 || behind.column < indent) && behind.nextIs (· == '\t') then none
      else if behind.nextIs isBreak then
        blockBreaks indent fuel deepest (breaks ++ [behind.breakChar]) behind.skipBreak
      else some (breaks, deepest, behind)

/-- The lines of a block scalar at `indent`. `lead` is the break behind the last line and `breaks`
the empty lines since; in folded text a break between two lines that do not begin with a blank is a
space, and is dropped before empty lines. -/
def blockLines (folded : Bool) (indent : Nat) :
    Nat → (wasBlank : Bool) → (lead breaks text : List Char) → Cursor →
      Option (List Char × List Char × List Char × Cursor)
  | 0, _, _, _, _, _ => none
  | fuel + 1, wasBlank, lead, breaks, text, cursor =>
      if cursor.column = indent && !cursor.atEnd then do
        let isBlankHere := cursor.nextIs isBlank
        let joint :=
          if folded && lead == ['\n'] && !wasBlank && !isBlankHere then
            if breaks.isEmpty then [' '] else breaks
          else lead ++ breaks
        let (line, behind) := cursor.takeWhile fun c => !isBreak c
        let next := if behind.atEnd then [] else [behind.breakChar]
        let (more, _, after) ← blockBreaks indent (behind.rest.length + 1) 0 [] behind.skipBreak
        blockLines folded indent fuel isBlankHere next more (text ++ joint ++ line) after
      else some (text, lead, breaks, cursor)

/-- A literal or folded scalar inside a collection indented by `parent`. -/
def readBlock (folded : Bool) (parent : Int) (cursor : Cursor) : Option (List Char × Cursor) := do
  let (chomping, increment, header) ← readBlockHeader (cursor.skip 1)
  let blanks := header.skipWhile isBlank
  let behind := if blanks.nextIs (· == '#') then blanks.skipWhile (fun c => !isBreak c) else blanks
  if !(behind.atEnd || behind.nextIs isBreak) then none
  else
    let first := behind.skipBreak
    let known := if increment = 0 then 0 else (max parent 0).toNat + increment
    let (breaks, deepest, place) ← blockBreaks known (first.rest.length + 1) 0 [] first
    let indent := if known = 0 then max (max deepest (parent + 1).toNat) 1 else known
    let (text, lead, breaks, after) ←
      blockLines folded indent (place.rest.length + 1) false [] breaks [] place
    match chomping with
    | .strip => some (text, after)
    | .clip => some (text ++ lead, after)
    | .keep => some (text ++ lead ++ breaks, after)

end MessageCatalog.Yaml
