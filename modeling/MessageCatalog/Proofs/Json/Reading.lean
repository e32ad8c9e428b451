import MessageCatalog.Json.Reader
import MessageCatalog.Proofs.Keyed
import MessageCatalog.Proofs.Outcome

/-!
What the readers establish: in every value that is read, the objects at any depth have distinct keys
and the whole numbers fit. Over the tokens of a JSON text the invariant is that the scalars in all
finished nodes, in the open frames and at the root, read as nothing but single values. The root
itself is the value whose last token is the last of the text.
-/

namespace MessageCatalog

theorem Number.fits_of_ofNumeral? {numeral : Numeral} {value : Number}
    (read : ofNumeral? numeral = some value) :
    value.Fits := by
  have doubles : ∀ found : Option Binary64, found.map double = some value → value.Fits := by
    intro found same
    obtain ⟨number, _, rfl⟩ := Option.map_eq_some_iff.mp same
    trivial
  unfold ofNumeral? at read
  split at read
  · dsimp only at read
    generalize (if numeral.negative = true
        then -(((Text.readDigitsFrom 10 0 numeral.whole).getD 0 : Nat) : Int)
        else (((Text.readDigitsFrom 10 0 numeral.whole).getD 0 : Nat) : Int)) = whole at read
    split at read
    · next fitting =>
        cases read
        exact (Bool.and_eq_true_iff.mp fitting).1
    · exact doubles _ read
  · exact doubles _ read

namespace Json

theorem itemsWellFormed_iff (items : List Json) :
    ItemsWellFormed items ↔ ∀ item ∈ items, item.WellFormed := by
  induction items with
  | nil => simp [ItemsWellFormed]
  | cons item rest induction => simp [ItemsWellFormed, induction]

theorem membersWellFormed_iff (members : List (String × Json)) :
    MembersWellFormed members ↔ ∀ member ∈ members, member.2.WellFormed := by
  induction members with
  | nil => simp [MembersWellFormed]
  | cons member rest induction => simp [MembersWellFormed, induction]

/-- The values of documents: at any depth keys are distinct and whole numbers fit. -/
inductive Sound : Json → Prop where
  | null : Sound .null
  | boolean (value : Bool) : Sound (.boolean value)
  | number {value : Number} (fits : value.Fits) : Sound (.number value)
  | text (value : String) : Sound (.text value)
  | array {items : List Json} (each : ∀ item ∈ items, Sound item) : Sound (.array items)
  | object {members : List (String × Json)} (distinct : Keyed.Distinct members)
      (each : ∀ member ∈ members, Sound member.2) : Sound (.object members)

/-- The values that are neither arrays nor objects. -/
def IsScalar : Json → Prop
  | number value => value.Fits
  | array _ => False
  | object _ => False
  | _ => True

theorem IsScalar.sound {value : Json} (scalar : value.IsScalar) : value.Sound := by
  cases value with
  | null => exact .null
  | boolean value => exact .boolean value
  | number value => exact .number scalar
  | text value => exact .text value
  | array items => cases scalar
  | object members => cases scalar

theorem Sound.wellFormed {value : Json} (sound : Sound value) : value.WellFormed := by
  induction sound with
  | array each induction => exact (itemsWellFormed_iff _).mpr induction
  | object distinct each induction => exact ⟨distinct, (membersWellFormed_iff _).mpr induction⟩
  | _ => trivial

theorem sound_ofPairs {pairs : List (String × Json)} (each : ∀ pair ∈ pairs, pair.2.Sound) :
    (object (Keyed.ofPairs pairs)).Sound :=
  .object (Keyed.distinct_ofPairs pairs) (Keyed.forall_ofPairs each)

end Json

namespace Node

/-- All scalars under the values of the node read as values that are neither arrays nor objects. -/
inductive Settled : Node → Prop where
  | scalar {readings : Scalar} (scalars : ∀ value, readings.value = some value → value.IsScalar) :
      Settled (.scalar readings)
  | sequence {items : List Node} (each : ∀ item ∈ items, Settled item) : Settled (.sequence items)
  | mapping {members : List (Node × Node)} (each : ∀ member ∈ members, Settled member.2) :
      Settled (.mapping members)
  | owned {inner : Node} (inside : Settled inner) : Settled (.owned inner)

/-- A node that is a collection only where one is written. -/
inductive Explicit : Node → Prop where
  | scalar {readings : Scalar} (written : readings.isVoid = false) : Explicit (.scalar readings)
  | sequence (items : List Node) : Explicit (.sequence items)
  | mapping (members : List (Node × Node)) : Explicit (.mapping members)

variable {readKey : Node → Option String}

theorem itemsWith?_eq_mapM (readKey : Node → Option String) (items : List Node) :
    itemsWith? readKey items = items.mapM (valueWith? readKey) := by
  induction items with
  | nil => rfl
  | cons item rest induction =>
      rw [itemsWith?, List.mapM_cons, induction]
      rfl

/-- Reads the key of a member, then its value. -/
def readPair (readKey : Node → Option String) (member : Node × Node) : Option (String × Json) :=
  (readKey member.1).bind fun key => (member.2.valueWith? readKey).map fun value => (key, value)

theorem membersWith?_eq_mapM (readKey : Node → Option String) (members : List (Node × Node)) :
    membersWith? readKey members = members.mapM (readPair readKey) := by
  induction members with
  | nil => rfl
  | cons member rest induction =>
      rw [membersWith?, List.mapM_cons, induction, readPair]
      cases readKey member.1 with
      | none => rfl
      | some key => cases member.2.valueWith? readKey <;> rfl

theorem readPair_eq_some_iff {member : Node × Node} {pair : String × Json} :
    readPair readKey member = some pair ↔
      readKey member.1 = some pair.1 ∧ member.2.valueWith? readKey = some pair.2 := by
  obtain ⟨key, value⟩ := pair
  simp only [readPair, Option.bind_eq_some_iff, Option.map_eq_some_iff, Prod.mk.injEq]
  constructor
  · rintro ⟨_, keyRead, _, valueRead, rfl, rfl⟩
    exact ⟨keyRead, valueRead⟩
  · rintro ⟨keyRead, valueRead⟩
    exact ⟨key, keyRead, value, valueRead, rfl, rfl⟩

theorem mem_itemsWith? {items : List Node} {values : List Json}
    (success : itemsWith? readKey items = some values) :
    ∀ value ∈ values, ∃ item ∈ items, item.valueWith? readKey = some value := by
  rw [itemsWith?_eq_mapM] at success
  exact Outcome.mem_of_mapM success

theorem mem_membersWith? {members : List (Node × Node)} {pairs : List (String × Json)}
    (success : membersWith? readKey members = some pairs) :
    ∀ pair ∈ pairs, ∃ member ∈ members, member.2.valueWith? readKey = some pair.2 := by
  rw [membersWith?_eq_mapM] at success
  intro pair listed
  obtain ⟨member, source, read⟩ := Outcome.mem_of_mapM success pair listed
  exact ⟨member, source, (readPair_eq_some_iff.mp read).2⟩

theorem sound_of_settled {node : Node} (settled : Settled node) {value : Json}
    (success : node.valueWith? readKey = some value) : value.Sound := by
  induction settled generalizing value with
  | scalar scalars => exact (scalars value success).sound
  | sequence each induction =>
      rw [valueWith?, Option.map_eq_some_iff] at success
      obtain ⟨values, read, rfl⟩ := success
      apply Json.Sound.array
      intro value member
      obtain ⟨item, listed, itemRead⟩ := mem_itemsWith? read value member
      exact induction item listed itemRead
  | mapping each induction =>
      rw [valueWith?, Option.map_eq_some_iff] at success
      obtain ⟨pairs, read, rfl⟩ := success
      apply Json.sound_ofPairs
      intro pair member
      obtain ⟨source, listed, sourceRead⟩ := mem_membersWith? read pair member
      exact induction source listed sourceRead
  | owned inside induction => cases success

end Node

namespace Json

/-- The finished nodes of an open array or object. -/
def Frame.Settled : Frame → Prop
  | .array items => ∀ item ∈ items, item.Settled
  | .object members _ => ∀ member ∈ members, member.2.Settled

structure Reader.Settled (reader : Reader) : Prop where
  frames : ∀ frame ∈ reader.frames, frame.Settled
  root : ∀ root, reader.await = .nothing root → root.Settled

namespace Reader

theorem settled_start : Settled start where
  frames := by simp [start]
  root := by simp [start]

theorem settled_of_frames {frames : List Frame} {await : Await}
    (open_frames : ∀ frame ∈ frames, frame.Settled) (unfinished : ∀ root, await ≠ .nothing root) :
    Settled ⟨frames, await⟩ where
  frames := open_frames
  root root same := absurd same (unfinished root)

theorem settled_place {node : Node} {frames : List Frame} (settled : node.Settled)
    (around : ∀ frame ∈ frames, frame.Settled) : Settled (place node frames) := by
  cases frames with
  | nil =>
      constructor
      · simp [place]
      · intro root same
        cases same
        exact settled
  | cons frame frames =>
      have innermost : frame.Settled := around frame List.mem_cons_self
      have outer : ∀ frame ∈ frames, frame.Settled :=
        fun frame inside => around frame (List.mem_cons_of_mem _ inside)
      cases frame with
      | array items =>
          have grown : Frame.Settled (.array (node :: items)) :=
            List.forall_mem_cons.mpr ⟨settled, innermost⟩
          exact settled_of_frames (List.forall_mem_cons.mpr ⟨grown, outer⟩) (by simp)
      | object members key =>
          have grown : Frame.Settled (.object ((.scalar (textScalar key), node) :: members) key) :=
            List.forall_mem_cons.mpr ⟨settled, innermost⟩
          exact settled_of_frames (List.forall_mem_cons.mpr ⟨grown, outer⟩) (by simp)

theorem settled_closeArray {frames : List Frame} {after : Reader}
    (around : ∀ frame ∈ frames, frame.Settled) (closed : closeArray frames = some after) :
    Settled after := by
  unfold closeArray at closed
  split at closed
  · next items frames =>
      cases closed
      obtain ⟨innermost, outer⟩ := List.forall_mem_cons.mp around
      refine settled_place (.sequence ?_) outer
      intro item member
      exact innermost item (List.mem_reverse.mp member)
  · cases closed

theorem settled_closeObject {frames : List Frame} {after : Reader}
    (around : ∀ frame ∈ frames, frame.Settled) (closed : closeObject frames = some after) :
    Settled after := by
  unfold closeObject at closed
  split at closed
  · next members key frames =>
      cases closed
      obtain ⟨innermost, outer⟩ := List.forall_mem_cons.mp around
      refine settled_place (.mapping ?_) outer
      intro member listed
      exact innermost member (List.mem_reverse.mp listed)
  · cases closed

theorem settled_beginValue {frames : List Frame} {token : Token} {after : Reader}
    (around : ∀ frame ∈ frames, frame.Settled) (begun : beginValue frames token = some after) :
    Settled after := by
  cases token with
  | null =>
      cases begun
      refine settled_place (.scalar ?_) around
      intro value same
      cases same
      trivial
  | boolean flag =>
      cases begun
      refine settled_place (.scalar ?_) around
      intro value same
      cases same
      trivial
  | number numeral =>
      cases begun
      refine settled_place (.scalar ?_) around
      intro value same
      obtain ⟨number, read, rfl⟩ := Option.map_eq_some_iff.mp same
      exact Number.fits_of_ofNumeral? read
  | text content =>
      cases begun
      refine settled_place (.scalar ?_) around
      intro value same
      obtain ⟨text, _, rfl⟩ := Option.map_eq_some_iff.mp same
      trivial
  | beginArray =>
      cases begun
      have opened : Frame.Settled (.array []) := by simp [Frame.Settled]
      exact settled_of_frames (List.forall_mem_cons.mpr ⟨opened, around⟩) (by simp)
  | beginObject =>
      cases begun
      have opened : Frame.Settled (.object [] none) := by simp [Frame.Settled]
      exact settled_of_frames (List.forall_mem_cons.mpr ⟨opened, around⟩) (by simp)
  | _ => cases begun

theorem settled_beginKey {frames : List Frame} {token : Token} {after : Reader}
    (around : ∀ frame ∈ frames, frame.Settled) (begun : beginKey frames token = some after) :
    Settled after := by
  unfold beginKey at begun
  split at begun
  · next members old frames key =>
      cases begun
      obtain ⟨innermost, outer⟩ := List.forall_mem_cons.mp around
      have renamed : Frame.Settled (.object members key) := innermost
      exact settled_of_frames (List.forall_mem_cons.mpr ⟨renamed, outer⟩) (by simp)
  · cases begun

/-- The ways in which a reader takes a token. -/
inductive Takes (frames : List Frame) (token : Token) (after : Reader) : Prop where
  | value (begun : beginValue frames token = some after)
  | key (begun : beginKey frames token = some after)
  | arrayEnd (closed : closeArray frames = some after)
  | objectEnd (closed : closeObject frames = some after)
  | mark {await : Await} (unfinished : ∀ root, await ≠ .nothing root)
      (moved : after = ⟨frames, await⟩)

theorem takes_of_step {reader after : Reader} {token : Token}
    (stepped : reader.step token = some after) :
    Takes reader.frames token after := by
  unfold step at stepped
  split at stepped
  · exact .value stepped
  · exact .arrayEnd stepped
  · exact .value stepped
  · exact .key stepped
  · exact .objectEnd stepped
  · exact .key stepped
  · exact .mark (by simp) (Option.some.inj stepped).symm
  · split at stepped
    · exact .mark (by simp) (Option.some.inj stepped).symm
    · exact .mark (by simp) (Option.some.inj stepped).symm
    · cases stepped
  · exact .arrayEnd stepped
  · exact .objectEnd stepped
  · cases stepped

theorem settled_step {reader after : Reader} {token : Token} (settled : Settled reader)
    (stepped : reader.step token = some after) : Settled after := by
  have around := settled.frames
  cases takes_of_step stepped with
  | value begun => exact settled_beginValue around begun
  | key begun => exact settled_beginKey around begun
  | arrayEnd closed => exact settled_closeArray around closed
  | objectEnd closed => exact settled_closeObject around closed
  | mark unfinished moved =>
      rw [moved]
      exact settled_of_frames around unfinished

/-- What every step keeps, a run keeps. -/
theorem run_keeps {Holds : Reader → Prop} {tokens : List Token} {reader last : Reader}
    (step_keeps : ∀ {before after token},
      Holds before → step before token = some after → Holds after)
    (holds : Holds reader) (run : tokens.foldlM step reader = some last) : Holds last := by
  induction tokens generalizing reader with
  | nil =>
      cases run
      exact holds
  | cons token rest induction =>
      rw [List.foldlM_cons, Option.bind_eq_bind, Option.bind_eq_some_iff] at run
      obtain ⟨after, stepped, onward⟩ := run
      exact induction (step_keeps holds stepped) onward

theorem settled_run {tokens : List Token} {last : Reader}
    (run : tokens.foldlM step start = some last) :
    Settled last := run_keeps settled_step settled_start run

/-- No root is put down but as a value of its own. -/
def Explicit (reader : Reader) : Prop := ∀ root, reader.await = .nothing root → root.Explicit

theorem explicit_place {node : Node} (explicit : node.Explicit) (frames : List Frame) :
    (place node frames).Explicit := by
  cases frames with
  | nil =>
      intro root same
      cases same
      exact explicit
  | cons frame frames =>
      intro root same
      cases frame <;> cases same

theorem explicit_closeArray {frames : List Frame} {after : Reader}
    (closed : closeArray frames = some after) :
    after.Explicit := by
  unfold closeArray at closed
  split at closed
  · cases closed
    exact explicit_place (.sequence _) _
  · cases closed

theorem explicit_closeObject {frames : List Frame} {after : Reader}
    (closed : closeObject frames = some after) :
    after.Explicit := by
  unfold closeObject at closed
  split at closed
  · cases closed
    exact explicit_place (.mapping _) _
  · cases closed

theorem explicit_beginValue {frames : List Frame} {token : Token} {after : Reader}
    (begun : beginValue frames token = some after) : after.Explicit := by
  have scalars :
      ∀ readings : Scalar, readings.isVoid = false → (place (.scalar readings) frames).Explicit :=
    fun readings written => explicit_place (.scalar written) frames
  cases token with
  | null =>
      cases begun
      exact scalars _ rfl
  | boolean flag =>
      cases begun
      exact scalars _ rfl
  | number numeral =>
      cases begun
      exact scalars _ rfl
  | text content =>
      cases begun
      exact scalars _ rfl
  | beginArray =>
      cases begun
      simp [Explicit]
  | beginObject =>
      cases begun
      simp [Explicit]
  | _ => cases begun

theorem explicit_beginKey {frames : List Frame} {token : Token} {after : Reader}
    (begun : beginKey frames token = some after) : after.Explicit := by
  unfold beginKey at begun
  split at begun
  · cases begun
    simp [Explicit]
  · cases begun

/-- Whatever was there before, a step that puts down a root has just made it. -/
theorem explicit_step {reader after : Reader} {token : Token}
    (stepped : reader.step token = some after) :
    after.Explicit := by
  cases takes_of_step stepped with
  | value begun => exact explicit_beginValue begun
  | key begun => exact explicit_beginKey begun
  | arrayEnd closed => exact explicit_closeArray closed
  | objectEnd closed => exact explicit_closeObject closed
  | mark unfinished moved =>
      intro root same
      rw [moved] at same
      exact absurd same (unfinished root)

theorem explicit_run {tokens : List Token} {last : Reader}
    (run : tokens.foldlM step start = some last) :
    last.Explicit := by
  refine run_keeps (fun _ stepped => explicit_step stepped) ?_ run
  simp [Explicit, start]

end Reader

/-- A node that is read whole is the root that a run over the tokens has put down. -/
theorem run_of_readNode? {text : List Char} {node : Node}
    (success : readNode? .whole text = some node) :
    ∃ tokens last, List.foldlM Reader.step Reader.start tokens = some last ∧
      last.await = .nothing node := by
  simp only [readNode?, Option.bind_eq_bind, Option.bind_eq_some_iff] at success
  obtain ⟨tokens, _, last, run, finished⟩ := success
  split at finished
  · next root awaited =>
      rw [Node.select_whole] at finished
      split at finished
      · cases finished
        exact ⟨tokens, last, run, awaited⟩
      · cases finished
  · cases finished

theorem settled_readNode? {text : List Char} {node : Node}
    (success : readNode? .whole text = some node) :
    node.Settled := by
  obtain ⟨tokens, last, run, awaited⟩ := run_of_readNode? success
  exact (Reader.settled_run run).root node awaited

theorem explicit_readNode? {text : List Char} {node : Node}
    (success : readNode? .whole text = some node) :
    node.Explicit := by
  obtain ⟨tokens, last, run, awaited⟩ := run_of_readNode? success
  exact Reader.explicit_run run node awaited

theorem sound_read? {text : String} {value : Json} (success : read? text = some value) :
    value.Sound := by
  obtain ⟨node, found, read⟩ := Option.bind_eq_some_iff.mp success
  exact Node.sound_of_settled (settled_readNode? found) read

/-- In a value read from a JSON text the keys of every object are distinct. -/
theorem wellFormed_read? {text : String} {value : Json} (success : read? text = some value) :
    value.WellFormed := (sound_read? success).wellFormed

end Json

end MessageCatalog
