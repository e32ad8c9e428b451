import MessageCatalog.Proofs.Insert.Runs
import MessageCatalog.Proofs.Json.Writing

/-!
Two ways to inserts. A side of the inserts can be decoded as what it is, member by member or item by
item; or a document of any kind is decoded and is checked only then. In between, the document has
lost the members that were written over, so both ways agree because values may be converted before
they are written or afterwards. Nothing else is lost: the document can be had back from the inserts.
-/

namespace MessageCatalog

namespace InsertSide

/-- The kind of document that a side is. -/
def Wants : InsertSide → Json → Prop
  | named, .object _ => True
  | positional, .array _ => True
  | _, _ => False

/-- What is written as a document of that kind. -/
def WantsNode : InsertSide → Node → Prop
  | named, .mapping _ => True
  | positional, .sequence _ => True
  | _, _ => False

variable {side : InsertSide} {node : Node} {document : Json}

theorem wants_of_toJson? (wanted : side.WantsNode node) (read : node.toJson? = some document) :
    side.Wants document := by
  cases node with
  | mapping members =>
      obtain ⟨pairs, _, rfl⟩ := Option.map_eq_some_iff.mp read
      cases side with
      | named => trivial
      | positional => cases wanted
  | sequence items =>
      obtain ⟨values, _, rfl⟩ := Option.map_eq_some_iff.mp read
      cases side with
      | named => cases wanted
      | positional => trivial
  | _ => cases side <;> cases wanted

/-- A scalar is no document with members or items, so what reads as one was written as one. -/
theorem wantsNode_of_toJson? (settled : node.Settled) (read : node.toJson? = some document)
    (wants : side.Wants document) : side.WantsNode node := by
  cases settled with
  | scalar scalars =>
      have scalar := scalars document read
      cases document with
      | array items => cases scalar
      | object members => cases scalar
      | _ => cases side <;> cases wants
  | sequence each =>
      obtain ⟨values, _, rfl⟩ := Option.map_eq_some_iff.mp read
      cases side with
      | named => cases wants
      | positional => trivial
  | mapping each =>
      obtain ⟨pairs, _, rfl⟩ := Option.map_eq_some_iff.mp read
      cases side with
      | named => trivial
      | positional => cases wants
  | owned inside => cases read

end InsertSide

/-- Decoding a side at once comes to the same as decoding a document and checking it. -/
structure DecodesAsChecked {Inserts : Type} (side : InsertSide) (decode : Node → Option Inserts)
    (check : Option Json → Except InsertError Inserts) (toJson : Inserts → Json) : Prop where
  decoded : ∀ node, side.WantsNode node → ∀ inserts,
    decode node = some inserts ↔
      ∃ document, node.toJson? = some document ∧ check (some document) = .ok inserts
  kept : ∀ node, side.WantsNode node → ∀ inserts, decode node = some inserts →
    node.toJson? = some (toJson inserts)
  texts : ∀ text inserts, (Node.ofText? .json .whole text).bind decode = some inserts ↔
    ∃ document, Json.read? text = some document ∧ side.Wants document ∧
      check (some document) = .ok inserts
  serialized : ∀ text inserts, (Node.ofText? .json .whole text).bind decode = some inserts →
    Json.read? text = some (toJson inserts) ∧
      Json.read? (toJson inserts).wireText = some (toJson inserts) ∧
      (Node.ofText? .json .whole (toJson inserts).wireText).bind decode = some inserts
  accepted : ∀ document, document.WellFormed → side.Wants document →
    ∃ inserts, check (some document) = .ok inserts ∧ toJson inserts = document
  checked : ∀ inserts, check (some (toJson inserts)) = .ok inserts
  refused : ∀ raw failure, check raw = .error failure ↔
    failure = .shape side ∧ ∃ document, raw = some document ∧ document ≠ .null ∧
      ¬ side.Wants document

/-- What the two ways have in common: where a side is wanted, its document is the one that is read
anyway. Such a document leads to the side and back. -/
structure SameDocument {Inserts : Type} (side : InsertSide) (decode : Node → Option Inserts)
    (check : Option Json → Except InsertError Inserts) (toJson : Inserts → Json) : Prop where
  read : ∀ node, side.WantsNode node → node.toJson? = (decode node).map toJson
  checked : ∀ inserts, check (some (toJson inserts)) = .ok inserts
  accepted : ∀ document, document.WellFormed → side.Wants document →
    ∃ inserts, check (some document) = .ok inserts ∧ toJson inserts = document
  refused : ∀ raw failure, check raw = .error failure ↔
    failure = .shape side ∧ ∃ document, raw = some document ∧ document ≠ .null ∧
      ¬ side.Wants document
  wanted : ∀ node, node.Explicit → ∀ inserts, decode node = some inserts → side.WantsNode node

section Agreement

variable {Inserts : Type} {side : InsertSide} {decode : Node → Option Inserts}
    {check : Option Json → Except InsertError Inserts} {toJson : Inserts → Json} {text : String}
    {inserts : Inserts}

theorem SameDocument.decoded_iff (same : SameDocument side decode check toJson) {node : Node}
    (wanted : side.WantsNode node) : decode node = some inserts ↔
      ∃ document, node.toJson? = some document ∧ check (some document) = .ok inserts := by
  rw [same.read node wanted]
  constructor
  · intro decoded
    exact ⟨toJson inserts, congrArg (Option.map toJson) decoded, same.checked inserts⟩
  · rintro ⟨document, read, accepted⟩
    obtain ⟨other, decoded, rfl⟩ := Option.map_eq_some_iff.mp read
    have sameInserts : other = inserts := Except.ok.inj ((same.checked other).symm.trans accepted)
    rw [decoded, sameInserts]

theorem SameDocument.kept (same : SameDocument side decode check toJson) {node : Node}
    (wanted : side.WantsNode node) (decoded : decode node = some inserts) :
    node.toJson? = some (toJson inserts) := by
  rw [same.read node wanted, decoded]
  rfl

theorem SameDocument.read_of_text (same : SameDocument side decode check toJson)
    (decodedText : (Node.ofText? .json .whole text).bind decode = some inserts) :
    Json.read? text = some (toJson inserts) ∧ side.Wants (toJson inserts) := by
  obtain ⟨node, written, decoded⟩ := Option.bind_eq_some_iff.mp decodedText
  have wanted := same.wanted node (Json.explicit_readNode? written) inserts decoded
  have read := same.kept wanted decoded
  exact ⟨Option.bind_eq_some_iff.mpr ⟨node, written, read⟩, InsertSide.wants_of_toJson? wanted read⟩

theorem SameDocument.text_iff (same : SameDocument side decode check toJson) :
    (Node.ofText? .json .whole text).bind decode = some inserts ↔
      ∃ document, Json.read? text = some document ∧ side.Wants document ∧
        check (some document) = .ok inserts := by
  constructor
  · intro decodedText
    obtain ⟨read, wants⟩ := same.read_of_text decodedText
    exact ⟨toJson inserts, read, wants, same.checked inserts⟩
  · rintro ⟨document, read, wants, accepted⟩
    obtain ⟨node, written, nodeRead⟩ := Option.bind_eq_some_iff.mp read
    have wanted := InsertSide.wantsNode_of_toJson? (Json.settled_readNode? written) nodeRead wants
    have decoded := (same.decoded_iff wanted).mpr ⟨document, nodeRead, accepted⟩
    exact Option.bind_eq_some_iff.mpr ⟨node, written, decoded⟩

/-- What was read from a text nests no deeper than texts are read, so it can be written and read
again. -/
theorem SameDocument.serialized (same : SameDocument side decode check toJson)
    (decodedText : (Node.ofText? .json .whole text).bind decode = some inserts) :
    Json.read? text = some (toJson inserts) ∧
      Json.read? (toJson inserts).wireText = some (toJson inserts) ∧
      (Node.ofText? .json .whole (toJson inserts).wireText).bind decode = some inserts := by
  obtain ⟨read, wants⟩ := same.read_of_text decodedText
  have again : Json.read? (toJson inserts).wireText = some (toJson inserts) := by
    rw [Json.read?_wireText (Json.sound_read? read), if_pos (Json.nestsWithin_read? read)]
  exact ⟨read, again, same.text_iff.mpr ⟨toJson inserts, again, wants, same.checked inserts⟩⟩

theorem SameDocument.decodes_as_checked (same : SameDocument side decode check toJson) :
    DecodesAsChecked side decode check toJson where
  decoded _ wanted _ := same.decoded_iff wanted
  kept _ wanted _ := same.kept wanted
  texts _ _ := same.text_iff
  serialized _ _ := same.serialized
  accepted := same.accepted
  checked := same.checked
  refused := same.refused

end Agreement

namespace NamedInserts

/-- The pairs of a mapping are the members of its document, as inserts and with repeated keys still
there. -/
theorem pairsOf?_mapping (members : List (Node × Node)) :
    pairsOf? (.mapping members) =
      (Node.membersWith? Node.text? members).map
        (List.map fun pair => (pair.1, Insert.ofJson pair.2)) := by
  have bothParts : ∀ member : Node × Node,
      ((member.1.text?.map fun key => (key, member.2)).bind fun named =>
          named.2.toJson?.map fun value => (named.1, Insert.ofJson value)) =
        (Node.readPair Node.text? member).map fun pair => (pair.1, Insert.ofJson pair.2) := by
    intro member
    rw [Node.readPair, Option.map_bind, Option.bind_map]
    simp only [Function.comp_def, Option.map_map, Node.toJson?]
  calc pairsOf? (.mapping members)
      = members.mapM fun member => (member.1.text?.map fun key => (key, member.2)).bind fun named =>
          named.2.toJson?.map fun value => (named.1, Insert.ofJson value) :=
            Outcome.mapM_mapM _ _ members
    _ = members.mapM fun member =>
          (Node.readPair Node.text? member).map fun pair => (pair.1, Insert.ofJson pair.2) := by
        simp only [bothParts]
    _ = (members.mapM (Node.readPair Node.text?)).map
        (List.map fun pair => (pair.1, Insert.ofJson pair.2)) :=
        Outcome.mapM_map _ _ members
    _ = _ := by rw [Node.membersWith?_eq_mapM]

/-- Members may be written over each other as inserts or as document values. -/
theorem toJson_ofPairs (pairs : List (String × Json)) :
    (ofPairs (pairs.map fun pair => (pair.1, Insert.ofJson pair.2))).toJson =
      .object (Keyed.ofPairs pairs) := by
  apply congrArg Json.object
  simp [members, ofPairs, Keyed.ofPairs_map, Function.comp_def, Insert.toJson_ofJson]

theorem toJson?_eq {node : Node} (wanted : InsertSide.named.WantsNode node) :
    node.toJson? = (ofNode? node).map toJson := by
  cases node with
  | mapping members =>
      rw [Node.toJson?, Node.valueWith?, ofNode?_eq, pairsOf?_mapping, Option.map_map,
        Option.map_map]
      congr 1
      funext pairs
      exact (toJson_ofPairs pairs).symm
  | _ => cases wanted

theorem ofRaw_error_iff {raw : Option Json} {failure : InsertError} : ofRaw raw = .error failure ↔
    failure = .shape .named ∧
      ∃ document, raw = some document ∧ document ≠ .null ∧ ¬ InsertSide.named.Wants document := by
  cases raw with
  | none => simp [ofRaw]
  | some document => cases document <;> simp [ofRaw, InsertSide.Wants, eq_comm]

theorem same_document : SameDocument .named ofNode? ofRaw toJson where
  read _ := toJson?_eq
  checked := ofRaw_toJson
  accepted document wellFormed wants := by
    cases document with
    | object members =>
        have whole := toJson_ofPairs members
        rw [Keyed.ofPairs_of_distinct members wellFormed.1] at whole
        exact ⟨ofMembers members, rfl, whole⟩
    | _ => cases wants
  refused _ _ := ofRaw_error_iff
  wanted node explicit inserts decoded := by
    cases explicit with
    | scalar written => simp [ofNode?, Node.members?, written] at decoded
    | sequence items => cases decoded
    | mapping members => trivial

end NamedInserts

namespace PositionalInserts

theorem toJson_ofItems (items : List Json) : toJson (items.map Insert.ofJson) = .array items := by
  simp [toJson, Function.comp_def, Insert.toJson_ofJson]

theorem toJson?_eq {node : Node} (wanted : InsertSide.positional.WantsNode node) :
    node.toJson? = (ofNode? node).map toJson := by
  cases node with
  | sequence items =>
      have decoded :
          ofNode? (.sequence items) = (items.mapM Node.toJson?).map (List.map Insert.ofJson) :=
        Outcome.mapM_map Node.toJson? Insert.ofJson items
      rw [decoded, Node.toJson?, Node.valueWith?, Node.itemsWith?_eq_mapM, Option.map_map]
      congr 1
      funext values
      exact (toJson_ofItems values).symm
  | _ => cases wanted

theorem ofRaw_error_iff {raw : Option Json} {failure : InsertError} : ofRaw raw = .error failure ↔
    failure = .shape .positional ∧
      ∃ document, raw = some document ∧ document ≠ .null ∧
        ¬ InsertSide.positional.Wants document := by
  cases raw with
  | none => simp [ofRaw]
  | some document => cases document <;> simp [ofRaw, InsertSide.Wants, eq_comm]

theorem same_document : SameDocument .positional ofNode? ofRaw toJson where
  read _ := toJson?_eq
  checked := ofRaw_toJson
  accepted document _ wants := by
    cases document with
    | array items => exact ⟨items.map Insert.ofJson, rfl, toJson_ofItems items⟩
    | _ => cases wants
  refused _ _ := ofRaw_error_iff
  wanted node explicit inserts decoded := by
    cases explicit with
    | scalar written => simp [ofNode?, Node.items?, written] at decoded
    | sequence items => trivial
    | mapping members => cases decoded

end PositionalInserts

namespace Node

variable {document : Json}

/-- The members of an object that was decoded as a document of any kind. -/
theorem toJson?_mapping_iff {members : List (Node × Node)} :
    (mapping members).toJson? = some document ↔ ∃ pairs kept,
      List.Forall₂ (fun member pair =>
        member.1.text? = some pair.1 ∧ member.2.toJson? = some pair.2) members pairs ∧
          Keyed.LastWritten pairs kept ∧ document = .object kept := by
  simp only [toJson?, valueWith?, membersWith?_eq_mapM, Option.map_eq_some_iff,
    Outcome.mapM_eq_some_iff, readPair_eq_some_iff, Keyed.lastWritten_iff]
  constructor
  · rintro ⟨pairs, each, rfl⟩
    exact ⟨pairs, _, each, rfl, rfl⟩
  · rintro ⟨pairs, _, each, rfl, rfl⟩
    exact ⟨pairs, each, rfl⟩

theorem toJson?_sequence_iff {items : List Node} :
    (sequence items).toJson? = some document ↔
      ∃ values, List.Forall₂ (fun item value => item.toJson? = some value) items values ∧
        document = .array values := by
  simp only [toJson?, valueWith?, itemsWith?_eq_mapM, Option.map_eq_some_iff,
    Outcome.mapM_eq_some_iff]
  simp only [eq_comm]

end Node

/-- Decoding inserts at once and checking a decoded document agree on both sides, whatever is
written and how often a key is, and nothing but a value that was written over is lost in between. -/
theorem inserts_decode_as_checked :
    DecodesAsChecked .named NamedInserts.ofNode? NamedInserts.ofRaw NamedInserts.toJson ∧
    DecodesAsChecked .positional PositionalInserts.ofNode? PositionalInserts.ofRaw
      PositionalInserts.toJson ∧
    (∀ (members : List (Node × Node)) document,
      (Node.mapping members).toJson? = some document ↔ ∃ pairs kept,
        List.Forall₂ (fun member pair =>
          member.1.text? = some pair.1 ∧ member.2.toJson? = some pair.2) members pairs ∧
        Keyed.LastWritten pairs kept ∧ document = .object kept) ∧
    (∀ (items : List Node) document, (Node.sequence items).toJson? = some document ↔
      ∃ values, List.Forall₂ (fun item value => item.toJson? = some value) items values ∧
        document = .array values) ∧
    Function.LeftInverse Insert.ofJson Insert.toJson ∧
      Function.RightInverse Insert.ofJson Insert.toJson :=
  ⟨NamedInserts.same_document.decodes_as_checked,
    PositionalInserts.same_document.decodes_as_checked, fun _ _ => Node.toJson?_mapping_iff,
    fun _ _ => Node.toJson?_sequence_iff, Insert.ofJson_toJson, Insert.toJson_ofJson⟩

/-- A key that is written twice stands where it was first and has what it was given last. -/
example :
    (Node.ofText? .json .whole "\x7b\"b\":1,\"a\":[],\"b\":null\x7d").bind NamedInserts.ofNode? =
      some (.ofPairs [("b", .absent), ("a", .list [])]) := by cbv

end MessageCatalog
