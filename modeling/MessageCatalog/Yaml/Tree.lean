import MessageCatalog.Yaml.Token

/-!
YAML text as a tree of nodes with their properties, before aliases are followed and scalars are
read. The readers take the tokens from the left and return what is left over; each call takes at
least one token or stands in for a node that is not written, so twice the number of tokens bounds
the depth of the calls.
-/

namespace MessageCatalog.Yaml

/-- The anchor and the full tag of a node. -/
structure Properties (Name : Type) where
  anchor : Option Name
  tag : Option (List Char)

inductive Tree (Name : Type) where
  | alias (name : Name)
  | scalar (properties : Properties Name) (style : ScalarStyle) (text : List Char)
  | sequence (properties : Properties Name) (items : List (Tree Name))
  | mapping (properties : Properties Name) (members : List (Tree Name × Tree Name))

/-- A tree as written, with anchors by name. -/
abbrev NamedTree := Tree (List Char)

abbrev NamedProperties := Properties (List Char)

/-- The tag handles in force with the text each one stands for. -/
abbrev TagHandles := List (List Char × List Char)

namespace Tree

def plainProperties : NamedProperties := ⟨none, none⟩

/-- Stands for a node where nothing is written. -/
def unwritten : NamedTree := .scalar plainProperties .plain []

def fullTag (handles : TagHandles) (handle suffix : List Char) : Option (List Char) :=
  if handle.isEmpty then some suffix
  else (handles.lookup handle).map (· ++ suffix)

/-- An anchor and a tag in either order, each optional. -/
def readProperties (handles : TagHandles) : List Token → Option (NamedProperties × List Token)
  | .anchor name :: .tag handle suffix :: rest =>
      (fullTag handles handle suffix).map fun tag => (⟨some name, some tag⟩, rest)
  | .anchor name :: rest => some (⟨some name, none⟩, rest)
  | .tag handle suffix :: .anchor name :: rest =>
      (fullTag handles handle suffix).map fun tag => (⟨some name, some tag⟩, rest)
  | .tag handle suffix :: rest =>
      (fullTag handles handle suffix).map fun tag => (⟨none, some tag⟩, rest)
  | tokens => some (plainProperties, tokens)

def nextIsOneOf (ends : List Token) (tokens : List Token) : Bool := tokens.head?.any ends.contains

mutual

/-- A node. Block collections begin only in block context; where `indentless` holds, a sequence may
begin with an entry at the column of the mapping around it. -/
def readNode (handles : TagHandles) (block indentless : Bool) :
    Nat → List Token → Option (NamedTree × List Token)
  | 0, _ => none
  | fuel + 1, tokens =>
      match tokens with
      | .alias name :: rest => some (.alias name, rest)
      | _ => do
          let (properties, rest) ← readProperties handles tokens
          match rest with
          | .scalar style text :: rest => some (.scalar properties style text, rest)
          | .flowSequenceStart :: rest =>
              (readFlowItems handles true fuel rest).map fun (items, rest) =>
                (.sequence properties items, rest)
          | .flowMappingStart :: rest =>
              (readFlowMembers handles true fuel rest).map fun (members, rest) =>
                (.mapping properties members, rest)
          | next :: others =>
              if indentless && next == .blockEntry then
                (readIndentlessItems handles fuel rest).map fun (items, rest) =>
                  (.sequence properties items, rest)
              else if block && next == .blockSequenceStart then
                (readBlockItems handles fuel others).map fun (items, rest) =>
                  (.sequence properties items, rest)
              else if block && next == .blockMappingStart then
                (readBlockMembers handles fuel others).map fun (members, rest) =>
                  (.mapping properties members, rest)
              else if properties.anchor.isSome || properties.tag.isSome then
                some (.scalar properties .plain [], rest)
              else none
          | [] =>
              if properties.anchor.isSome || properties.tag.isSome then
                some (.scalar properties .plain [], rest)
              else none

/-- A node, or nothing written before one of `ends`. -/
def readNodeUnless (handles : TagHandles) (block indentless : Bool) (ends : List Token) :
    Nat → List Token → Option (NamedTree × List Token)
  | 0, _ => none
  | fuel + 1, tokens =>
      if nextIsOneOf ends tokens then some (unwritten, tokens)
      else readNode handles block indentless fuel tokens

def readBlockItems (handles : TagHandles) : Nat → List Token → Option (List NamedTree × List Token)
  | 0, _ => none
  | fuel + 1, tokens =>
      match tokens with
      | .blockEntry :: rest => do
          let (item, rest) ← readNodeUnless handles true false [.blockEntry, .blockEnd] fuel rest
          let (items, rest) ← readBlockItems handles fuel rest
          some (item :: items, rest)
      | .blockEnd :: rest => some ([], rest)
      | _ => none

def readIndentlessItems (handles : TagHandles) :
    Nat → List Token → Option (List NamedTree × List Token)
  | 0, _ => none
  | fuel + 1, tokens =>
      match tokens with
      | .blockEntry :: rest => do
          let (item, rest) ←
            readNodeUnless handles true false [.blockEntry, .key, .value, .blockEnd] fuel rest
          let (items, rest) ← readIndentlessItems handles fuel rest
          some (item :: items, rest)
      | tokens => some ([], tokens)

def readBlockMembers (handles : TagHandles) :
    Nat → List Token → Option (List (NamedTree × NamedTree) × List Token)
  | 0, _ => none
  | fuel + 1, tokens =>
      match tokens with
      | .key :: rest => do
          let (key, rest) ← readNodeUnless handles true true [.key, .value, .blockEnd] fuel rest
          let (value, rest) ← readBlockValue handles fuel rest
          let (members, rest) ← readBlockMembers handles fuel rest
          some ((key, value) :: members, rest)
      | .blockEnd :: rest => some ([], rest)
      | _ => none

def readBlockValue (handles : TagHandles) : Nat → List Token → Option (NamedTree × List Token)
  | 0, _ => none
  | fuel + 1, tokens =>
      match tokens with
      | .value :: rest => readNodeUnless handles true true [.key, .value, .blockEnd] fuel rest
      | tokens => some (unwritten, tokens)

/-- The items of a flow sequence; all but the first follow a comma, and a comma may stand before the
end. A single pair is a mapping of its own. -/
def readFlowItems (handles : TagHandles) (first : Bool) :
    Nat → List Token → Option (List NamedTree × List Token)
  | 0, _ => none
  | fuel + 1, tokens =>
      match tokens with
      | .flowSequenceEnd :: rest => some ([], rest)
      | _ => do
          let tokens ← if first then some tokens
            else match tokens with
              | .flowEntry :: rest => some rest
              | _ => none
          match tokens with
          | .flowSequenceEnd :: rest => some ([], rest)
          | .key :: rest => do
              let (pair, rest) ← readFlowPair handles fuel rest
              let (items, rest) ← readFlowItems handles false fuel rest
              some (pair :: items, rest)
          | tokens => do
              let (item, rest) ← readNode handles false false fuel tokens
              let (items, rest) ← readFlowItems handles false fuel rest
              some (item :: items, rest)

/-- A single pair in a flow sequence. Where the key is not written, the token behind the key mark is
passed over. -/
def readFlowPair (handles : TagHandles) : Nat → List Token → Option (NamedTree × List Token)
  | 0, _ => none
  | fuel + 1, tokens => do
      let (key, rest) ←
        if nextIsOneOf [.value, .flowEntry, .flowSequenceEnd] tokens then
          some (unwritten, tokens.drop 1)
        else readNode handles false false fuel tokens
      let (value, rest) ← readFlowValue handles [.flowEntry, .flowSequenceEnd] fuel rest
      some (.mapping plainProperties [(key, value)], rest)

def readFlowValue (handles : TagHandles) (ends : List Token) :
    Nat → List Token → Option (NamedTree × List Token)
  | 0, _ => none
  | fuel + 1, tokens =>
      match tokens with
      | .value :: rest => readNodeUnless handles false false ends fuel rest
      | tokens => some (unwritten, tokens)

def readFlowMembers (handles : TagHandles) (first : Bool) :
    Nat → List Token → Option (List (NamedTree × NamedTree) × List Token)
  | 0, _ => none
  | fuel + 1, tokens =>
      match tokens with
      | .flowMappingEnd :: rest => some ([], rest)
      | _ => do
          let tokens ← if first then some tokens
            else match tokens with
              | .flowEntry :: rest => some rest
              | _ => none
          match tokens with
          | .flowMappingEnd :: rest => some ([], rest)
          | .key :: rest => do
              let (key, rest) ←
                readNodeUnless handles false false [.value, .flowEntry, .flowMappingEnd] fuel rest
              let (value, rest) ← readFlowValue handles [.flowEntry, .flowMappingEnd] fuel rest
              let (members, rest) ← readFlowMembers handles false fuel rest
              some ((key, value) :: members, rest)
          | tokens => do
              let (key, rest) ← readNode handles false false fuel tokens
              let (members, rest) ← readFlowMembers handles false fuel rest
              some ((key, unwritten) :: members, rest)

end

def standardHandles : TagHandles :=
  [(['!'], ['!']), (['!', '!'], "tag:yaml.org,2002:".toList)]

/-- The directives before a document: at most one version, 1.1 or 1.2, and distinct handles. A
handle of the document's own hides a standard one. -/
def readDirectives : Bool → TagHandles → List Token → Option (TagHandles × List Token)
  | versioned, handles, .versionDirective major minor :: rest =>
      if versioned || major != 1 || !(minor == 1 || minor == 2) then none
      else readDirectives true handles rest
  | versioned, handles, .tagDirective handle stem :: rest =>
      if (handles.lookup handle).isSome then none
      else readDirectives versioned ((handle, stem) :: handles) rest
  | _, handles, tokens => some (handles ++ standardHandles, tokens)

/-- What a stream of one document holds. Only a stream without any token holds nothing at all. -/
def ofTokens? (tokens : List Token) : Option (Option NamedTree) := do
  let fuel := 4 * tokens.length + 4
  let (tree, rest) ← match tokens with
    | [] => some (none, [])
    | .versionDirective _ _ :: _ | .tagDirective _ _ :: _ | .documentStart :: _ => do
        let (handles, rest) ← readDirectives false [] tokens
        match rest with
        | .documentStart :: [] => some (some unwritten, [])
        | .documentStart :: next :: others =>
            match next with
            | .versionDirective _ _ | .tagDirective _ _ | .documentStart | .documentEnd =>
                some (some unwritten, next :: others)
            | _ =>
                (readNode handles true false fuel (next :: others)).map fun (tree, rest) =>
                  (some tree, rest)
        | _ => none
    | _ =>
        (readNode standardHandles true false fuel tokens).map fun (tree, rest) => (some tree, rest)
  if (rest.dropWhile (· == .documentEnd)).isEmpty then some tree else none

end Tree

end MessageCatalog.Yaml
