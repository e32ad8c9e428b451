import MessageCatalog.Proofs.Catalog.Documents
import MessageCatalog.Proofs.Document.Record
import MessageCatalog.Proofs.Yaml.Reading

/-!
The written forms of entries and messages. Both put all members that are no fields of their own
behind the fields, and both know the same fields; so what an entry had besides its fields is found
again behind those of the message, and both are read back as what they were.
-/

namespace MessageCatalog

namespace NamedInserts

variable {inserts : NamedInserts} {node : Node}

/-- All values can stand in a document. -/
def Sound (inserts : NamedInserts) : Prop := ∀ entry ∈ inserts.entries, entry.2.toJson.Sound

theorem sound_overlay {lower upper : NamedInserts} (below : lower.Sound) (above : upper.Sound) :
    (lower.overlay upper).Sound := by
  intro entry member
  exact (Keyed.mem_overlay member).elim (below entry) (above entry)

theorem distinct_members (inserts : NamedInserts) : Keyed.Distinct inserts.members := by
  simpa [members, Keyed.Distinct, Keyed.keys, Function.comp_def] using inserts.distinct

theorem sound_toJson (sound : inserts.Sound) : inserts.toJson.Sound :=
  .object inserts.distinct_members (List.forall_mem_map.mpr sound)

theorem ofNode?_toJson (sound : inserts.Sound) :
    ofNode? (Node.ofJson inserts.toJson) = some inserts := by
  have read : (Node.nodesOf inserts.members).mapM (fun member =>
      member.2.toJson?.map fun value => (member.1, Insert.ofJson value)) =
        some inserts.entries := by
    rw [Outcome.mapM_eq_some_iff, Node.nodesOf, members, List.map_map, List.forall₂_map_left_iff,
      List.forall₂_same]
    intro entry inside
    simp [Node.toJson?_ofJson (sound entry inside), Insert.ofJson_toJson]
  rw [ofNode?, toJson, Node.members?_ofJson]
  simp only [Option.bind_eq_bind, Option.bind_some, read, ofPairs]
  simp only [Keyed.ofPairs_of_distinct _ inserts.distinct]

theorem mem_of_ofNode? (decoded : ofNode? node = some inserts) :
    ∃ members, node.members? = some members ∧
      ∀ entry ∈ inserts.entries, ∃ member ∈ members, member.2.toJson? = some entry.2.toJson := by
  simp only [ofNode?, Option.bind_eq_bind, Option.bind_eq_some_iff, Option.some.injEq] at decoded
  obtain ⟨members, given, pairs, listed, rfl⟩ := decoded
  refine ⟨members, given, ?_⟩
  intro entry inside
  obtain ⟨member, source, read⟩ := Outcome.mem_of_mapM listed entry (Keyed.mem_ofPairs inside)
  obtain ⟨value, valueRead, rfl⟩ := Option.map_eq_some_iff.mp read
  exact ⟨member, source, by rw [valueRead, Insert.toJson_ofJson]⟩

theorem sound_ofNode? (settled : node.Settled) (decoded : ofNode? node = some inserts) :
    inserts.Sound := by
  obtain ⟨members, given, each⟩ := mem_of_ofNode? decoded
  intro entry inside
  obtain ⟨member, source, read⟩ := each entry inside
  exact Node.sound_of_settled (Node.settled_members? settled given member source) read

theorem nestsWithin_ofNode? {limit : Nat} (settled : node.Settled)
    (decoded : ofNode? node = some inserts) (nests : node.nestsWithin (limit + 1) = true) :
    (Node.ofJson inserts.toJson).nestsWithin (limit + 1) = true := by
  obtain ⟨members, given, each⟩ := mem_of_ofNode? decoded
  apply Node.nestsWithin_ofMembers.mpr
  rw [NamedInserts.members, List.forall_mem_map]
  intro entry inside
  obtain ⟨member, source, read⟩ := each entry inside
  exact Node.nestsWithin_ofJson (Node.settled_members? settled given member source) read
    (Node.nestsWithin_members? nests given member source)

end NamedInserts

namespace Entry

section Members

variable (name : String) (text : Option String) (inserts : Option NamedInserts)

@[simp] theorem get?_textMember (other : String) :
    Keyed.get? other (textMember name text) = if name = other then text.map .text else none := by
  cases text with
  | none => simp [textMember, Keyed.get?]
  | some content => simp [textMember, Keyed.get?]

@[simp] theorem get?_insertsMember (other : String) :
    Keyed.get? other (insertsMember inserts) =
      if "namedInserts" = other then inserts.map NamedInserts.toJson else none := by
  cases inserts with
  | none => simp [insertsMember, Keyed.get?]
  | some content => simp [insertsMember, Keyed.get?]

theorem keys_textMember : (Keyed.keys (textMember name text)).Sublist [name] := by
  cases text with
  | none => exact List.nil_sublist _
  | some content => exact List.Sublist.refl _

theorem keys_insertsMember : (Keyed.keys (insertsMember inserts)).Sublist ["namedInserts"] := by
  cases inserts with
  | none => exact List.nil_sublist _
  | some content => exact List.Sublist.refl _

theorem sound_textMember : ∀ member ∈ textMember name text, member.2.Sound := by
  cases text with
  | none => exact List.forall_mem_nil _
  | some content => exact List.forall_mem_singleton.mpr (.text content)

theorem sound_insertsMember {inserts : Option NamedInserts}
    (sound : ∀ own, inserts = some own → own.Sound) :
    ∀ member ∈ insertsMember inserts, member.2.Sound := by
  cases inserts with
  | none => exact List.forall_mem_nil _
  | some content =>
      exact List.forall_mem_singleton.mpr (NamedInserts.sound_toJson (sound content rfl))

end Members

/-- What an entry or a message has besides its texts can be written: the other members have names of
their own and no field's name, and all values can stand in a document. -/
structure Writable (inserts : Option NamedInserts) (extra : Keyed Json) : Prop where
  distinct : Keyed.Distinct extra
  foreign : ∀ name ∈ extra.keys, name ∉ fieldNames
  extra : ∀ member ∈ extra, member.2.Sound
  inserts : ∀ own, inserts = some own → own.Sound

theorem writable_of_decoded {node : Node} {entry : Entry} (settled : node.Settled)
    (decoded : ofNode? node = some entry) : Writable entry.namedInserts entry.extra := by
  simp only [ofNode?, Option.bind_eq_bind, Option.bind_eq_some_iff, Option.some.injEq] at decoded
  obtain ⟨members, given, _, _, _, _, _, _, own, ownRead, _, _, extra, taken, rfl⟩ := decoded
  have settledMembers := Node.settled_members? settled given
  constructor
  · exact distinct_readExtra? taken
  · intro name inside
    obtain ⟨other, listed, rfl⟩ := List.mem_map.mp inside
    exact (mem_of_readExtra? taken other listed).1
  · intro other listed
    obtain ⟨_, member, source, read⟩ := mem_of_readExtra? taken other listed
    exact Node.sound_of_settled (settledMembers member source) read
  · intro inserts same
    change own = some inserts at same
    rw [same] at ownRead
    obtain ⟨member, source, read⟩ := mem_of_readField? ownRead
    exact NamedInserts.sound_ofNode? (settledMembers member source) read

theorem nestsWithin_textMember {limit : Nat} (name : String) (text : Option String) :
    ∀ member ∈ textMember name text, (Node.ofJson member.2).nestsWithin limit = true := by
  cases text with
  | none => exact List.forall_mem_nil _
  | some content => exact List.forall_mem_singleton.mpr (Node.nestsWithin_ofString limit content)

/-- An entry nests no deeper in its written form than in the document it was decoded from. -/
theorem nestsWithin_of_decoded {limit : Nat} {node : Node} {entry : Entry} (settled : node.Settled)
    (decoded : ofNode? node = some entry) (nests : node.nestsWithin (limit + 2) = true) :
    (Node.ofJson entry.toJson).nestsWithin (limit + 2) = true := by
  simp only [ofNode?, Option.bind_eq_bind, Option.bind_eq_some_iff, Option.some.injEq] at decoded
  obtain ⟨members, given, message, _, action, _, detail, _, own, ownRead, url, _, extra, taken,
      rfl⟩ := decoded
  have settledMembers := Node.settled_members? settled given
  have nestedMembers := Node.nestsWithin_members? nests given
  have inserts :
      ∀ member ∈ insertsMember own, (Node.ofJson member.2).nestsWithin (limit + 1) = true := by
    cases own with
    | none => exact List.forall_mem_nil _
    | some inserts =>
        obtain ⟨member, source, read⟩ := mem_of_readField? ownRead
        exact List.forall_mem_singleton.mpr
          (NamedInserts.nestsWithin_ofNode? (settledMembers member source) read
            (nestedMembers member source))
  have others : ∀ other ∈ extra, (Node.ofJson other.2).nestsWithin (limit + 1) = true := by
    intro other listed
    obtain ⟨_, member, source, read⟩ := mem_of_readExtra? taken other listed
    exact Node.nestsWithin_ofJson (settledMembers member source) read (nestedMembers member source)
  apply Node.nestsWithin_ofMembers.mpr
  simp only [List.forall_mem_append]
  exact ⟨⟨⟨⟨⟨nestsWithin_textMember _ _, nestsWithin_textMember _ _⟩, nestsWithin_textMember _ _⟩,
    inserts⟩, nestsWithin_textMember _ _⟩, others⟩

def ownMembers (entry : Entry) : Keyed Json :=
  textMember "message" entry.message ++ textMember "action" entry.action ++
    textMember "detail" entry.detail ++ insertsMember entry.namedInserts ++
    textMember "url" entry.url

theorem written {entry : Entry} (writable : Writable entry.namedInserts entry.extra) :
    Written fieldNames entry.ownMembers entry.extra where
  ordered := by
    have keys := ((((keys_textMember "message" entry.message).append
      (keys_textMember "action" entry.action)).append
        (keys_textMember "detail" entry.detail)).append
          (keys_insertsMember entry.namedInserts)).append
            (keys_textMember "url" entry.url)
    simpa [Keyed.keys, ownMembers, fieldNames] using keys
  distinct := writable.distinct
  foreign := writable.foreign
  sound := by
    simp only [ownMembers, List.forall_mem_append]
    exact ⟨⟨⟨⟨⟨sound_textMember _ _, sound_textMember _ _⟩, sound_textMember _ _⟩,
      sound_insertsMember writable.inserts⟩, sound_textMember _ _⟩, writable.extra⟩

theorem readText_written {name : String} {members : Keyed Json} {text : Option String}
    (distinct : Keyed.Distinct members) (found : members.get? name = text.map .text) :
    readField? Node.text? name (Node.nodesOf members) = some text :=
  readField?_written distinct found fun _ _ => ⟨rfl, rfl⟩

theorem readInserts_written {members : Keyed Json} {inserts : Option NamedInserts}
    (distinct : Keyed.Distinct members) (sound : ∀ own, inserts = some own → own.Sound)
    (found : members.get? "namedInserts" = inserts.map NamedInserts.toJson) :
    readField? NamedInserts.ofNode? "namedInserts" (Node.nodesOf members) = some inserts :=
  readField?_written distinct found fun own same =>
    ⟨rfl, NamedInserts.ofNode?_toJson (sound own same)⟩

theorem get?_ownMembers (entry : Entry) :
    entry.ownMembers.get? "message" = entry.message.map .text ∧
      entry.ownMembers.get? "action" = entry.action.map .text ∧
      entry.ownMembers.get? "detail" = entry.detail.map .text ∧
      entry.ownMembers.get? "namedInserts" = entry.namedInserts.map NamedInserts.toJson ∧
      entry.ownMembers.get? "url" = entry.url.map .text := by
  refine ⟨?_, ?_, ?_, ?_, ?_⟩ <;> simp [ownMembers, Keyed.get?_append]

theorem ofNode?_toJson {entry : Entry} (writable : Writable entry.namedInserts entry.extra) :
    ofNode? (Node.ofJson entry.toJson) = some entry := by
  have parts := written writable
  have distinct := parts.members_distinct (by decide)
  obtain ⟨message, action, detail, inserts, url⟩ := get?_ownMembers entry
  rw [← parts.get?_field (by decide)] at message action detail inserts url
  have document : entry.toJson = .object (entry.ownMembers ++ entry.extra) := rfl
  rw [ofNode?, document, Node.members?_ofJson]
  simp only [Option.bind_eq_bind, Option.bind_some, readText_written distinct message,
    readText_written distinct action, readText_written distinct detail,
    readInserts_written distinct writable.inserts inserts, readText_written distinct url,
    parts.readExtra?_eq]

end Entry

namespace Message

def ownMembers (message : Message) : Keyed Json :=
  Entry.textMember "message" (some message.message) ++ Entry.textMember "action" message.action ++
    Entry.textMember "detail" message.detail ++ Entry.textMember "url" message.url ++
    Entry.insertsMember message.namedInserts

theorem mem_fieldNames_iff (name : String) : name ∈ fieldNames ↔ name ∈ Entry.fieldNames := by
  simp only [fieldNames, Entry.fieldNames, List.mem_cons, List.not_mem_nil, or_false]
  tauto

theorem written {message : Message} (writable : Entry.Writable message.namedInserts message.extra) :
    Entry.Written fieldNames message.ownMembers message.extra where
  ordered := by
    have keys := ((((Entry.keys_textMember "message" (some message.message)).append
      (Entry.keys_textMember "action" message.action)).append
        (Entry.keys_textMember "detail" message.detail)).append
          (Entry.keys_textMember "url" message.url)).append
            (Entry.keys_insertsMember message.namedInserts)
    simpa [Keyed.keys, ownMembers, fieldNames] using keys
  distinct := writable.distinct
  foreign := by
    intro name inside
    rw [mem_fieldNames_iff]
    exact writable.foreign name inside
  sound := by
    simp only [ownMembers, List.forall_mem_append]
    exact ⟨⟨⟨⟨⟨Entry.sound_textMember _ _, Entry.sound_textMember _ _⟩, Entry.sound_textMember _ _⟩,
      Entry.sound_textMember _ _⟩, Entry.sound_insertsMember writable.inserts⟩, writable.extra⟩

theorem get?_ownMembers (message : Message) :
    message.ownMembers.get? "message" = some (.text message.message) ∧
      message.ownMembers.get? "action" = message.action.map .text ∧
      message.ownMembers.get? "detail" = message.detail.map .text ∧
      message.ownMembers.get? "url" = message.url.map .text ∧
      message.ownMembers.get? "namedInserts" = message.namedInserts.map NamedInserts.toJson := by
  refine ⟨?_, ?_, ?_, ?_, ?_⟩ <;> simp [ownMembers, Keyed.get?_append]

theorem ofNode?_toJson {message : Message}
    (writable : Entry.Writable message.namedInserts message.extra) :
    ofNode? (Node.ofJson message.toJson) = some message := by
  have parts := written writable
  have distinct := parts.members_distinct (by decide)
  obtain ⟨text, action, detail, url, inserts⟩ := get?_ownMembers message
  rw [← parts.get?_field (by decide)] at text action detail url inserts
  have textRead : Node.text? (Node.ofJson (.text message.message)) = some message.message := rfl
  have document : message.toJson = .object (message.ownMembers ++ message.extra) := rfl
  rw [ofNode?, document, Node.members?_ofJson]
  simp only [Option.bind_eq_bind, Option.bind_some, Node.field?_nodesOf distinct, text,
    Option.map_some, textRead, Entry.readText_written distinct action,
    Entry.readText_written distinct detail, Entry.readText_written distinct url,
    Entry.readInserts_written distinct writable.inserts inserts, parts.readExtra?_eq]

end Message

/-- Decoding takes what a value is written as back to the value: as a document, and also as a text
if that nests no deeper than texts are read. -/
structure ReadsBack {Value : Type} (decode : Node → Option Value) (value : Value)
    (written : Json) : Prop where
  document : decode (Node.ofJson written) = some value
  text : (Node.ofText? .json .whole written.wireText).bind decode =
    if (Node.ofJson written).nestsWithin Json.depthLimit then some value else none

theorem ReadsBack.of_sound {Value : Type} {decode : Node → Option Value} {value : Value}
    {written : Json} (sound : written.Sound)
    (document : decode (Node.ofJson written) = some value) : ReadsBack decode value written where
  document := document
  text := by
    rw [Node.ofText?, Json.readNode?_wireText sound]
    split
    · exact document
    · rfl

theorem Entry.reads_back {entry : Entry} (writable : Writable entry.namedInserts entry.extra) :
    ReadsBack ofNode? entry entry.toJson :=
  .of_sound ((written writable).object_sound (by decide)) (ofNode?_toJson writable)

theorem Message.reads_back {message : Message}
    (writable : Entry.Writable message.namedInserts message.extra) :
    ReadsBack ofNode? message message.toJson :=
  .of_sound ((written writable).object_sound (by decide)) (ofNode?_toJson writable)

namespace Library

variable {tree : FileTree} {indexPath : String} {library : Library}

def WritableTable (table : Table) : Prop :=
  ∀ stored ∈ table, Entry.Writable stored.2.namedInserts stored.2.extra

theorem writableTable_of_decoded {node : Node} {table : Table} (settled : node.Settled)
    (decoded : node.keyed? Entry.ofNode? = some table) : WritableTable table := by
  let holds (entry : Entry) : Prop := Entry.Writable entry.namedInserts entry.extra
  have each : ∀ members, node.members? = some members →
      ∀ member ∈ members, ∀ entry, Entry.ofNode? member.2 = some entry → holds entry :=
    fun members given member inside entry read =>
      Entry.writable_of_decoded (Node.settled_members? settled given member inside) read
  exact Node.forall_keyed? each decoded

theorem writable_document {root : List Char} {catalog url : String} {document : Keyed Table}
    (success : readCatalog tree root catalog url = .ok document) :
    ∀ stored ∈ document, WritableTable stored.2 := by
  rw [readCatalog] at success
  obtain ⟨_, node, written, decoded⟩ := read_document_ok success
  rw [decodeCatalog?] at decoded
  exact Node.forall_keyed? (fun members given member inside table read => writableTable_of_decoded
    (Node.settled_members? (Node.settled_ofText? written) given member inside) read) decoded

/-- All entries of a loaded library have been decoded from documents. -/
theorem writable_entry (loaded : load tree indexPath = .ok library) {key : TableKey} {code : String}
    {entry : Entry} (found : library.entry? key code = some entry) :
    Entry.Writable entry.namedInserts entry.extra := by
  obtain ⟨catalog, locale⟩ := key
  simp only [Option.bind_eq_bind, Option.bind_eq_some_iff, entry?] at found
  obtain ⟨table, stored, found⟩ := found
  obtain ⟨entries, _, read, _, _⟩ := load_ok_iff.mp loaded
  have mirrors := mirrors_of_load loaded read
  by_cases usable : ∃ url, IsLocal entries catalog url
  · obtain ⟨url, isLocal⟩ := usable
    obtain ⟨document, success, lookups, _⟩ := mirrors.document catalog url isLocal
    have inDocument : (locale, table) ∈ document :=
      Keyed.mem_of_get? ((lookups locale).symm.trans stored)
    exact writable_document success _ inDocument _ (Keyed.mem_of_get? found)
  · have missing := (mirrors.no_other catalog (not_exists.mp usable)).1 locale
    rw [stored] at missing
    cases missing

theorem writable_found (loaded : load tree indexPath = .ok library) {catalog code : String}
    {locale : Option String} {entry : Entry}
    (found : library.findEntry? catalog code locale = some entry) :
    Entry.Writable entry.namedInserts entry.extra := by
  rw [findEntry?_eq, Option.or_eq_some_iff] at found
  rcases found with asked | ⟨_, fallback⟩
  · exact writable_entry loaded asked
  · exact writable_entry loaded fallback

theorem sound_context {entry : Entry} (writable : Entry.Writable entry.namedInserts entry.extra)
    {named : NamedInserts} (sound : named.Sound) : (context entry named).Sound := by
  unfold context
  split
  · next own given => exact NamedInserts.sound_overlay sound (writable.inserts own given)
  · exact sound

section Resolving

variable {request : Request} {message : Message}

/-- The parts of a resolved message that are not texts with inserts put in. -/
theorem parts_of_resolve [Template.KeySize] (resolved : library.resolve request = .ok message) :
    ∃ entry, library.findEntry? request.catalog request.code request.locale = some entry ∧
      message.extra = entry.extra ∧
      message.namedInserts =
        if request.verbose then some (context entry request.named) else none := by
  obtain ⟨entry, found, onward⟩ := Outcome.bind_ok_iff.mp (resolve_eq library request ▸ resolved)
  refine ⟨entry, (lookup_ok_iff.mp found).2, ?_⟩
  unfold answer at onward
  split at onward
  · cases onward
  · split at onward
    · cases onward
    · cases onward
      exact ⟨rfl, rfl⟩

/-- What is written of a message: fields and all other members of the entry it was made from, in
their order, and the inserts when they were asked for. -/
structure Shows (entry : Entry) (verbose : Bool) (message : Message)
    (members : Keyed Json) : Prop where
  written : message.toJson = .object members
  distinct : Keyed.Distinct members
  inserts : "namedInserts" ∈ members.keys ↔ verbose = true
  extra : entry.extra.Sublist members

theorem writable_message {entry : Entry} (writable : Entry.Writable entry.namedInserts entry.extra)
    (sound : request.verbose = true → request.named.Sound) (extra : message.extra = entry.extra)
    (inserts : message.namedInserts =
      if request.verbose then some (context entry request.named) else none) :
    Entry.Writable message.namedInserts message.extra where
  distinct := extra ▸ writable.distinct
  foreign := extra ▸ writable.foreign
  extra := extra ▸ writable.extra
  inserts := by
    intro own same
    rw [inserts] at same
    obtain ⟨verbose, given⟩ := Option.ite_none_right_eq_some.mp same
    cases given
    exact sound_context writable (sound verbose)

theorem shows_of_resolve {entry : Entry}
    (writable : Entry.Writable message.namedInserts message.extra)
    (extra : message.extra = entry.extra)
    (inserts : message.namedInserts =
      if request.verbose then some (context entry request.named) else none) :
    Shows entry request.verbose message (message.ownMembers ++ message.extra) where
  written := rfl
  distinct := (Message.written writable).members_distinct (by decide)
  inserts := by
    obtain ⟨_, _, _, _, given⟩ := Message.get?_ownMembers message
    rw [← (Message.written writable).get?_field (by decide), inserts] at given
    rw [Keyed.mem_keys_iff, given]
    cases request.verbose <;> simp
  extra := extra ▸ List.sublist_append_right _ _

/-- Entries and messages are written faithfully. An entry decoded from a document, by itself or as a
part of a catalog, reads back. A message shows all that its entry had besides the fields, and its
inserts exactly when they were asked for, with no name given twice; and it reads back. -/
theorem wire_forms_faithful [Template.KeySize] :
    (∀ (form : DocumentForm) (text : String) (node : Node) (entry : Entry),
      Node.ofText? form .whole text = some node → Entry.ofNode? node = some entry →
        ReadsBack Entry.ofNode? entry entry.toJson ∧
          (form = .json → (Node.ofJson entry.toJson).nestsWithin Json.depthLimit = true)) ∧
    ∀ (tree : FileTree) (indexPath : String) (library : Library),
      load tree indexPath = .ok library →
        (∀ key code entry, library.entry? key code = some entry →
          ReadsBack Entry.ofNode? entry entry.toJson) ∧
        ∀ request message, (request.verbose = true → request.named.Sound) →
          library.resolve request = .ok message →
            ∃ entry members,
              library.findEntry? request.catalog request.code request.locale = some entry ∧
                Shows entry request.verbose message members ∧
                ReadsBack Message.ofNode? message message.toJson := by
  constructor
  · intro form text node entry written decoded
    have settled := Node.settled_ofText? written
    refine ⟨Entry.reads_back (Entry.writable_of_decoded settled decoded), ?_⟩
    rintro rfl
    exact Entry.nestsWithin_of_decoded settled decoded (Json.nestsWithin_readNode? written)
  · intro tree indexPath library loaded
    constructor
    · intro key code entry found
      exact Entry.reads_back (writable_entry loaded found)
    · intro request message sound resolved
      obtain ⟨entry, found, extra, inserts⟩ := parts_of_resolve resolved
      have writable := writable_message (writable_found loaded found) sound extra inserts
      exact ⟨entry, _, found, shows_of_resolve writable extra inserts, Message.reads_back writable⟩

end Resolving

section Shown

/-- A catalog with one entry that has inserts and two members besides its fields. -/
def shownContent : String :=
  "\x7b\"en\":\x7b\"X\":\x7b\"kind\":[true,null],\"message\":\"\x7bid\x7d\",\"namedInserts\":\x7b\"z\":true\x7d,\"a\":\"b\"\x7d\x7d\x7d"

def shownEntry : Entry :=
  ⟨some "\x7bid\x7d", none, none, some (.ofPairs [("z", .boolean true)]), none,
    [("kind", .array [.boolean true, .null]), ("a", .text "b")]⟩

def shownLibrary : Library :=
  ⟨"index.json", [("c", .here "file://c.json")], [(⟨"c", "en"⟩, [("X", shownEntry)])]⟩

set_option maxRecDepth 2000 in
theorem load_shown : load (oneCatalog shownContent) "index.json" = .ok shownLibrary := by
  have written : (Node.ofText? .json .whole shownContent).bind decodeCatalog? =
      some [("en", [("X", shownEntry)])] := by cbv
  exact load_oneCatalog written rfl

/-- An entry with a field that stands for nothing. -/
def shownText : String := "\x7b\"message\":\"m\",\"action\":null,\"kind\":[true,\"yes\"]\x7d"

theorem wire_forms_faithful_verbose :
    let named : NamedInserts := .ofPairs [("id", .text "7")]
    let entry : Entry :=
      ⟨some "m", none, none, none, none, [("kind", .array [.boolean true, .text "yes"])]⟩
    (∃ node, Node.ofText? .json .whole shownText = some node ∧ Entry.ofNode? node = some entry ∧
      ReadsBack Entry.ofNode? entry entry.toJson) ∧
    load (oneCatalog shownContent) "index.json" = .ok shownLibrary ∧ named.Sound ∧
      ∃ message found members,
        shownLibrary.resolve ⟨"c", "X", named, [], none, true⟩ = .ok message ∧
          Shows found true message members ∧ ReadsBack Message.ofNode? message message.toJson := by
  intro named entry
  obtain ⟨node, written, decoded⟩ : ∃ node, Node.ofText? .json .whole shownText = some node ∧
      Entry.ofNode? node = some entry := ⟨_, by cbv, by cbv⟩
  obtain ⟨message, resolved⟩ :
      ∃ message, shownLibrary.resolve ⟨"c", "X", named, [], none, true⟩ = .ok message := ⟨_, rfl⟩
  have sound : named.Sound := List.forall_mem_singleton.mpr (.text "7")
  obtain ⟨entries, libraries⟩ := wire_forms_faithful
  have back := (entries _ _ _ _ written decoded).1
  obtain ⟨found, members, _, shows_message, message_back⟩ :=
    (libraries _ _ _ load_shown).2 _ _ (fun _ => sound) resolved
  exact ⟨⟨node, written, decoded, back⟩, load_shown, sound, message, found, members, resolved,
    shows_message, message_back⟩

end Shown

end Library

end MessageCatalog
