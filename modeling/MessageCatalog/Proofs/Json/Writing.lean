import MessageCatalog.Proofs.Json.Tokens

/-!
Written documents read back. The text of a value is read as one node, and the value of this node is
the value that was written, unless arrays and objects nest too deep in it for the reader.
-/

namespace MessageCatalog

namespace Node

open Json.Reader

/-- The readings of a number that stands in a JSON text. -/
def writtenNumber (value : Number) : Scalar :=
  ⟨none, some (.number value), none, countOf? value, some false, false⟩

/-- The node of a JSON string. -/
def ofString (text : String) : Node := .scalar (textScalar (some text))

mutual

/-- The node that the written text of a value is read as. -/
def ofJson : Json → Node
  | .null => scalar nullScalar
  | .boolean value => scalar (booleanScalar value)
  | .number value => scalar (writtenNumber value)
  | .text value => ofString value
  | .array items => sequence (ofItems items)
  | .object members => mapping (ofMembers members)

def ofItems : List Json → List Node
  | [] => []
  | item :: rest => ofJson item :: ofItems rest

def ofMembers : List (String × Json) → List (Node × Node)
  | [] => []
  | (key, value) :: rest => (ofString key, ofJson value) :: ofMembers rest

end

theorem ofItems_eq_map (items : List Json) : ofItems items = items.map ofJson := by
  induction items with
  | nil => rfl
  | cons item rest induction => rw [ofItems, induction, List.map_cons]

theorem ofMembers_eq_map (members : List (String × Json)) :
    ofMembers members = members.map fun member => (ofString member.1, ofJson member.2) := by
  induction members with
  | nil => rfl
  | cons member rest induction => rw [ofMembers, induction, List.map_cons]

@[simp] theorem text?_ofString (text : String) : (ofString text).text? = some text := rfl

@[simp] theorem ownText?_ofString (text : String) : (ofString text).ownText? = some text := rfl

section Values

variable {readKey : Node → Option String} (textKeys : ∀ key, readKey (ofString key) = some key)

theorem itemsWith?_ofItems {items : List Json}
    (each : ∀ item ∈ items, (ofJson item).valueWith? readKey = some item) :
    itemsWith? readKey (ofItems items) = some items := by
  rw [itemsWith?_eq_mapM, ofItems_eq_map, Outcome.mapM_eq_some_iff, List.forall₂_map_left_iff,
    List.forall₂_same]
  exact each

include textKeys in
theorem membersWith?_ofMembers {members : List (String × Json)}
    (each : ∀ member ∈ members, (ofJson member.2).valueWith? readKey = some member.2) :
    membersWith? readKey (ofMembers members) = some members := by
  rw [membersWith?_eq_mapM, ofMembers_eq_map, Outcome.mapM_eq_some_iff, List.forall₂_map_left_iff,
    List.forall₂_same]
  intro member inside
  exact readPair_eq_some_iff.mpr ⟨textKeys member.1, each member inside⟩

include textKeys in
/-- The value of the node of a value, in whichever way texts are read as keys. -/
theorem valueWith?_ofJson {value : Json} (sound : value.Sound) :
    (ofJson value).valueWith? readKey = some value := by
  induction sound with
  | array each induction => rw [ofJson, valueWith?, itemsWith?_ofItems induction, Option.map_some]
  | object distinct each induction =>
      rw [ofJson, valueWith?, membersWith?_ofMembers textKeys induction, Option.map_some,
        Keyed.ofPairs_of_distinct _ distinct]
  | _ => rfl

end Values

theorem toJson?_ofJson {value : Json} (sound : value.Sound) : (ofJson value).toJson? = some value :=
  valueWith?_ofJson text?_ofString sound

theorem asIs?_ofJson {value : Json} (sound : value.Sound) : (ofJson value).asIs? = some value :=
  valueWith?_ofJson ownText?_ofString sound

section Depth

theorem itemsNestWithin_iff {limit : Nat} {items : List Node} :
    itemsNestWithin limit items = true ↔ ∀ item ∈ items, item.nestsWithin limit = true := by
  induction items with
  | nil => simp [itemsNestWithin]
  | cons item rest induction => simp [itemsNestWithin, induction]

theorem membersNestWithin_iff {limit : Nat} {members : List (Node × Node)} :
    membersNestWithin limit members = true ↔
      ∀ member ∈ members, member.1.nestsWithin limit = true ∧
        member.2.nestsWithin limit = true := by
  induction members with
  | nil => simp [membersNestWithin]
  | cons member rest induction => simp [membersNestWithin, induction, and_assoc]

theorem nestsWithin_ofItems {limit : Nat} {items : List Json} :
    itemsNestWithin limit (ofItems items) = true ↔
      ∀ item ∈ items, (ofJson item).nestsWithin limit = true := by
  rw [itemsNestWithin_iff, ofItems_eq_map, List.forall_mem_map]

theorem nestsWithin_ofString (limit : Nat) (text : String) :
    (ofString text).nestsWithin limit = true := by
  cases limit <;> rfl

theorem nestsWithin_ofMembers {limit : Nat} {members : List (String × Json)} :
    membersNestWithin limit (ofMembers members) = true ↔
      ∀ member ∈ members, (ofJson member.2).nestsWithin limit = true := by
  rw [membersNestWithin_iff, ofMembers_eq_map, List.forall_mem_map]
  simp only [nestsWithin_ofString, true_and]

theorem nestsWithin_of_subset {limit : Nat} {members others : List (String × Json)}
    (kept : ∀ member ∈ others, member ∈ members)
    (nests : (ofJson (.object members)).nestsWithin limit = true) :
    (ofJson (.object others)).nestsWithin limit = true := by
  cases limit with
  | zero => cases nests
  | succ limit =>
      have each := nestsWithin_ofMembers.mp nests
      exact nestsWithin_ofMembers.mpr fun member inside => each member (kept member inside)

theorem nestsWithin_of_isScalar {value : Json} (scalar : value.IsScalar) (limit : Nat) :
    (ofJson value).nestsWithin limit = true := by
  cases value with
  | array items => cases scalar
  | object members => cases scalar
  | _ => cases limit <;> rfl

/-- What was read nests no deeper in its own text than where it was read. -/
theorem nestsWithin_ofJson {readKey : Node → Option String} {limit : Nat} {node : Node}
    {value : Json} (settled : node.Settled) (read : node.valueWith? readKey = some value)
    (nests : node.nestsWithin limit = true) :
    (ofJson value).nestsWithin limit = true := by
  induction settled generalizing limit value with
  | scalar scalars => exact nestsWithin_of_isScalar (scalars value read) limit
  | sequence each induction =>
      rw [valueWith?, Option.map_eq_some_iff] at read
      obtain ⟨values, itemsRead, rfl⟩ := read
      cases limit with
      | zero => cases nests
      | succ limit =>
          apply nestsWithin_ofItems.mpr
          intro value member
          obtain ⟨item, listed, itemRead⟩ := mem_itemsWith? itemsRead value member
          exact induction item listed itemRead (itemsNestWithin_iff.mp nests item listed)
  | mapping each induction =>
      rw [valueWith?, Option.map_eq_some_iff] at read
      obtain ⟨pairs, membersRead, rfl⟩ := read
      cases limit with
      | zero => cases nests
      | succ limit =>
          let fits (value : Json) : Prop := (ofJson value).nestsWithin limit = true
          have each : ∀ pair ∈ pairs, fits pair.2 := by
            intro pair member
            obtain ⟨source, listed, sourceRead⟩ := mem_membersWith? membersRead pair member
            exact induction source listed sourceRead
              (membersNestWithin_iff.mp nests source listed).2
          exact nestsWithin_ofMembers.mpr (Keyed.forall_ofPairs each)
  | owned inside induction => cases read

end Depth

end Node

namespace Json.Reader

/-- The tokens take the reader from one state to another. -/
def Goes (tokens : List Token) (before after : Reader) : Prop :=
  tokens.foldlM step before = some after

variable {tokens more : List Token} {token : Token} {before between after : Reader}

theorem goes_nil (reader : Reader) : Goes [] reader reader := rfl

theorem Goes.after_token (onward : Goes tokens between after)
    (stepped : before.step token = some between) :
    Goes (token :: tokens) before after := by
  rw [Goes, List.foldlM_cons, stepped]
  exact onward

theorem goes_token (stepped : before.step token = some after) : Goes [token] before after :=
  (goes_nil after).after_token stepped

theorem Goes.append (first : Goes tokens before between) (onward : Goes more between after) :
    Goes (tokens ++ more) before after := by
  rw [Goes, List.foldlM_append, first]
  exact onward

/-- Where a value may begin, the tokens are read as this node. -/
def Reads (tokens : List Token) (node : Node) : Prop :=
  ∀ frames await, await = .value ∨ await = .valueOrEnd →
    Goes tokens ⟨frames, await⟩ (place node frames)

theorem step_beginValue {frames : List Frame} {await : Await}
    (awaited : await = .value ∨ await = .valueOrEnd) (begins : token ≠ .endArray) :
    step ⟨frames, await⟩ token = beginValue frames token := by
  rcases awaited with rfl | rfl
  · rfl
  · cases token with
    | endArray => exact absurd rfl begins
    | _ => rfl

theorem reads_token {node : Node}
    (begun : ∀ frames, beginValue frames token = some (place node frames))
    (begins : token ≠ .endArray) : Reads [token] node := by
  intro frames await awaited
  exact goes_token ((step_beginValue awaited begins).trans (begun frames))

/-- In an open array the items that are read come before those that were there. -/
theorem goes_items {item : Json} {rest : List Json}
    (each : ∀ written ∈ item :: rest, Reads (tokensOf written) (.ofJson written)) {await : Await}
    (awaited : await = .value ∨ await = .valueOrEnd) (before : List Node) (frames : List Frame) :
    Goes (itemTokens (item :: rest)) ⟨.array before :: frames, await⟩
      ⟨.array ((Node.ofItems (item :: rest)).reverse ++ before) :: frames, .commaOrEnd⟩ := by
  induction rest generalizing item await before with
  | nil => exact each item List.mem_cons_self _ await awaited
  | cons next rest induction =>
      obtain ⟨first, others⟩ := List.forall_mem_cons.mp each
      have read := first (.array before :: frames) await awaited
      have onward := induction others (Or.inl rfl) (.ofJson item :: before)
      have comma : step ⟨.array (.ofJson item :: before) :: frames, .commaOrEnd⟩ .comma =
          some ⟨.array (.ofJson item :: before) :: frames, .value⟩ := rfl
      have both := read.append (onward.after_token comma)
      simpa [itemTokens, Node.ofItems] using both

theorem step_beginKey {frames : List Frame} {members : List (Node × Node)} {old key : Option String}
    {await : Await} (awaited : await = .key ∨ await = .keyOrEnd) :
    step ⟨.object members old :: frames, await⟩ (.text key) =
      some ⟨.object members key :: frames, .colon⟩ := by
  rcases awaited with rfl | rfl <;> rfl

theorem goes_member {member : String × Json} (read : Reads (tokensOf member.2) (.ofJson member.2))
    {await : Await} (awaited : await = .key ∨ await = .keyOrEnd) (before : List (Node × Node))
    (old : Option String) (frames : List Frame) :
    Goes (.text (some member.1) :: .colon :: tokensOf member.2)
      ⟨.object before old :: frames, await⟩
        ⟨.object ((.ofString member.1, .ofJson member.2) :: before) (some member.1) :: frames,
          .commaOrEnd⟩ := by
  have value := read (.object before (some member.1) :: frames) .value (Or.inl rfl)
  have colon : step ⟨.object before (some member.1) :: frames, .colon⟩ .colon =
      some ⟨.object before (some member.1) :: frames, .value⟩ := rfl
  exact (value.after_token colon).after_token (step_beginKey awaited)

/-- In an open object likewise; the key that is left over is that of the last member. -/
theorem goes_members {member : String × Json} {rest : List (String × Json)}
    (each : ∀ written ∈ member :: rest, Reads (tokensOf written.2) (.ofJson written.2))
    {await : Await} (awaited : await = .key ∨ await = .keyOrEnd) (before : List (Node × Node))
    (old : Option String) (frames : List Frame) :
    ∃ key, Goes (memberTokens (member :: rest)) ⟨.object before old :: frames, await⟩
      ⟨.object ((Node.ofMembers (member :: rest)).reverse ++ before) key :: frames,
        .commaOrEnd⟩ := by
  induction rest generalizing member await before old with
  | nil =>
      exact ⟨some member.1, goes_member (each member List.mem_cons_self) awaited before old frames⟩
  | cons next rest induction =>
      obtain ⟨first, others⟩ := List.forall_mem_cons.mp each
      have read := goes_member first awaited before old frames
      obtain ⟨key, onward⟩ :=
        induction others (Or.inl rfl) ((.ofString member.1, .ofJson member.2) :: before)
          (some member.1)
      have comma : step
          ⟨.object ((.ofString member.1, .ofJson member.2) :: before) (some member.1) :: frames,
            .commaOrEnd⟩ .comma =
          some ⟨.object ((.ofString member.1, .ofJson member.2) :: before) (some member.1) ::
            frames, .key⟩ := rfl
      have both := read.append (onward.after_token comma)
      refine ⟨key, ?_⟩
      simpa [memberTokens, Node.ofMembers] using both

theorem reads_array {items : List Json}
    (each : ∀ item ∈ items, Reads (tokensOf item) (.ofJson item)) :
    Reads (tokensOf (.array items)) (.ofJson (.array items)) := by
  intro frames await awaited
  have opened : step ⟨frames, await⟩ .beginArray = some ⟨.array [] :: frames, .valueOrEnd⟩ :=
    step_beginValue awaited (by simp)
  cases items with
  | nil =>
      have closed : step ⟨.array [] :: frames, .valueOrEnd⟩ .endArray =
          some (place (.sequence []) frames) := rfl
      exact (goes_token closed).after_token opened
  | cons item rest =>
      have inside := goes_items each (Or.inr rfl) [] frames
      have closed : step ⟨.array ((Node.ofItems (item :: rest)).reverse ++ []) :: frames,
          .commaOrEnd⟩ .endArray = some (place (.ofJson (.array (item :: rest))) frames) := by
        simp only [List.append_nil, step, closeArray, List.reverse_reverse, Node.ofJson]
      exact (inside.append (goes_token closed)).after_token opened

theorem reads_object {members : List (String × Json)}
    (each : ∀ member ∈ members, Reads (tokensOf member.2) (.ofJson member.2)) :
    Reads (tokensOf (.object members)) (.ofJson (.object members)) := by
  intro frames await awaited
  have opened : step ⟨frames, await⟩ .beginObject = some ⟨.object [] none :: frames, .keyOrEnd⟩ :=
    step_beginValue awaited (by simp)
  cases members with
  | nil =>
      have closed : step ⟨.object [] none :: frames, .keyOrEnd⟩ .endObject =
          some (place (.mapping []) frames) := rfl
      exact (goes_token closed).after_token opened
  | cons member rest =>
      obtain ⟨key, inside⟩ := goes_members each (Or.inr rfl) [] none frames
      have closed : step ⟨.object ((Node.ofMembers (member :: rest)).reverse ++ []) key :: frames,
          .commaOrEnd⟩ .endObject = some (place (.ofJson (.object (member :: rest))) frames) := by
        simp only [List.append_nil, step, closeObject, List.reverse_reverse, Node.ofJson]
      exact (inside.append (goes_token closed)).after_token opened

/-- The tokens of a value are read as the node of that value. -/
theorem reads_tokensOf {value : Json} (sound : value.Sound) :
    Reads (tokensOf value) (.ofJson value) := by
  induction sound with
  | null => exact reads_token (fun _ => rfl) (by simp)
  | boolean value => exact reads_token (fun _ => rfl) (by simp)
  | @number value fits =>
      obtain ⟨numeral, parsed, read⟩ := Number.readsFrom_wireText fits
      refine reads_token (fun frames => ?_) (by simp)
      have written : numberScalar numeral = Node.writtenNumber value := by
        simp [numberScalar, Node.writtenNumber, read]
      rw [numeralOf, parsed, Option.getD_some, beginValue, written]
      rfl
  | text value => exact reads_token (fun _ => rfl) (by simp)
  | array each induction => exact reads_array induction
  | object distinct each induction => exact reads_object induction

end Json.Reader

namespace Json

variable {value : Json}

theorem nestsWithin_readNode? {selection : Selection} {text : List Char} {node : Node}
    (success : readNode? selection text = some node) : node.nestsWithin depthLimit = true := by
  simp only [readNode?, Option.bind_eq_bind, Option.bind_eq_some_iff] at success
  obtain ⟨tokens, _, last, _, finished⟩ := success
  split at finished
  · split at finished
    · next nests =>
        cases finished
        exact nests
    · cases finished
  · cases finished

/-- The text of a value is read as the node of that value, if the reader goes that deep. -/
theorem readNode?_wireText (sound : value.Sound) :
    readNode? .whole value.wireText.toList =
      if (Node.ofJson value).nestsWithin depthLimit then some (.ofJson value) else none := by
  have run :
      (tokensOf value).foldlM Reader.step Reader.start = some ⟨[], .nothing (.ofJson value)⟩ :=
    Reader.reads_tokensOf sound [] .value (Or.inl rfl)
  rw [readNode?, wireText, String.toList_ofList, tokens?_render sound]
  simp only [Option.bind_eq_bind, Option.bind_some, run, Node.select_whole]

theorem read?_wireText (sound : value.Sound) :
    read? value.wireText =
      if (Node.ofJson value).nestsWithin depthLimit then some value else none := by
  rw [read?, readNode?_wireText sound]
  split
  · exact Node.toJson?_ofJson sound
  · rfl

/-- What was read from a text can be written and read again. -/
theorem nestsWithin_read? {text : String} (read : read? text = some value) :
    (Node.ofJson value).nestsWithin depthLimit = true := by
  obtain ⟨node, found, nodeRead⟩ := Option.bind_eq_some_iff.mp read
  exact Node.nestsWithin_ofJson (settled_readNode? found) nodeRead (nestsWithin_readNode? found)

/-- Some members of an object that was read can be written and read again. -/
theorem readable_of_subset {text : String} {members others : List (String × Json)}
    (read : read? text = some (.object members)) (distinct : Keyed.Distinct others)
    (within : ∀ member ∈ others, member ∈ members) :
    (object others).Sound ∧ (Node.ofJson (.object others)).nestsWithin depthLimit = true := by
  constructor
  · cases sound_read? read with
    | object _ each =>
        exact .object distinct fun member inside => each member (within member inside)
  · exact Node.nestsWithin_of_subset within (nestsWithin_read? read)

/-- A text that can be read again is the text of one value only. -/
theorem eq_of_wireText {other : Json} (sound : value.Sound)
    (nests : (Node.ofJson value).nestsWithin depthLimit = true) (otherSound : other.Sound)
    (sameText : value.wireText = other.wireText) : value = other := by
  have read : read? value.wireText = some value := by
    rw [read?_wireText sound, if_pos nests]
  rw [sameText, read?_wireText otherSound] at read
  exact (Option.some.inj (Option.ite_none_right_eq_some.mp read).2).symm

end Json

end MessageCatalog
