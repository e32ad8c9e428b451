import MessageCatalog.Document.Reader
import MessageCatalog.Insert.Positional
import MessageCatalog.Proofs.Insert.Overlay

/-!
Containers of inserts over whole runs of changes. A change writes more to a container, or makes it
anew from a list or a text, and what the container holds is decided by all that was written since it
was last made anew. A change that fails writes nothing, so a run without its failing changes ends in
the same state.
-/

namespace MessageCatalog

/-- Why a change of a container fails. -/
inductive Refusal where
  | insert (cause : InsertError)
  | unreadable
deriving DecidableEq

/-- The state read from a text. -/
def Refusal.orUnreadable {State : Type} : Option State → Except Refusal State
  | some next => .ok next
  | none => .error .unreadable

theorem Refusal.orUnreadable_error_iff {State : Type} {read : Option State} {refusal : Refusal} :
    orUnreadable read = .error refusal ↔ read = none ∧ refusal = .unreadable := by
  cases read <;> simp [orUnreadable, eq_comm]

/-- What a change writes: more behind what was written before, or everything anew. -/
inductive Writing (Item : Type) where
  | more (items : List Item)
  | anew (items : List Item)

namespace Writing

variable {Item : Type}

def onto (before : List Item) : Writing Item → List Item
  | more items => before ++ items
  | anew items => items

/-- All that counts of some writings: the last one that starts anew, and what was written after
it. -/
def total (writings : List (Writing Item)) : List Item := writings.foldl onto []

theorem total_concat (writings : List (Writing Item)) (writing : Writing Item) :
    total (writings ++ [writing]) = writing.onto (total writings) := by
  rw [total, List.foldl_concat, total]

end Writing

section Run

variable {State Change Item : Type} (outcome : Change → State → Except Refusal State)

/-- A change that fails leaves the state as it was. -/
def after (state : State) (change : Change) : State :=
  match outcome change state with
  | .ok next => next
  | .error _ => state

def runFrom (start : State) (changes : List Change) : State := changes.foldl (after outcome) start

/-- The changes of a run that succeed where they stand. -/
def successes : State → List Change → List Change
  | _, [] => []
  | state, change :: rest =>
      match outcome change state with
      | .ok next => change :: successes next rest
      | .error _ => successes state rest

variable {outcome}

theorem after_of_ok {state next : State} {change : Change}
    (passed : outcome change state = .ok next) :
    after outcome state change = next := by
  rw [after, passed]

theorem after_of_error {state : State} {change : Change} {refusal : Refusal}
    (failed : outcome change state = .error refusal) : after outcome state change = state := by
  rw [after, failed]

theorem runFrom_concat (start : State) (changes : List Change) (change : Change) :
    runFrom outcome start (changes ++ [change]) =
      after outcome (runFrom outcome start changes) change := by
  rw [runFrom, List.foldl_concat, runFrom]

theorem runFrom_successes (start : State) (changes : List Change) :
    runFrom outcome start (successes outcome start changes) = runFrom outcome start changes := by
  induction changes generalizing start with
  | nil => rfl
  | cons change rest induction =>
      have onward : runFrom outcome start (change :: rest) =
          runFrom outcome (after outcome start change) rest := rfl
      rw [onward, ← induction, successes]
      cases reached : outcome change start with
      | ok next =>
          rw [after_of_ok reached]
          exact congrArg (fun state => runFrom outcome state _) (after_of_ok reached)
      | error refusal => rw [after_of_error reached]

/-- Where each change does to a state what its writing does to the record of all writings, a run
comes to what its writings come to. -/
theorem runFrom_eq_total {writes? : Change → Option (Writing Item)} {collect : List Item → State}
    (step : ∀ record change, after outcome (collect record) change =
      collect (((writes? change).map (Writing.onto record)).getD record))
    (changes : List Change) :
    runFrom outcome (collect []) changes = collect (Writing.total (changes.filterMap writes?)) := by
  induction changes using List.reverseRecOn with
  | nil => rfl
  | append_singleton changes change induction =>
      rw [runFrom_concat, induction, step, List.filterMap_append]
      cases wrote : writes? change with
      | none => simp [wrote]
      | some writing => simp [wrote, Writing.total_concat]

end Run

namespace NamedInserts

/-- The pairs that a document writes, in its order and with keys repeated where they are. -/
def pairsOf? (node : Node) : Option (List (String × Insert)) := do
  let members ← node.members?
  members.mapM fun member => member.2.toJson?.map fun value => (member.1, Insert.ofJson value)

theorem ofNode?_eq (node : Node) : ofNode? node = (pairsOf? node).map ofPairs := by
  unfold ofNode? pairsOf?
  cases node.members? with
  | none => rfl
  | some members => exact (Option.map_eq_bind ..).symm

def pairsOfText? (text : String) : Option (List (String × Insert)) :=
  (Node.ofText? .json .whole text).bind pairsOf?

def ofText? (text : String) : Option NamedInserts := (Node.ofText? .json .whole text).bind ofNode?

theorem ofText?_eq (text : String) : ofText? text = (pairsOfText? text).map ofPairs := by
  rw [ofText?, pairsOfText?, Option.map_bind]
  congr 1
  funext node
  exact ofNode?_eq node

/-- What can be done to a set: a value is written, a value of the host program is added, another set
is written over it, or it is made anew. -/
inductive Change where
  | set (key : String) (value : Insert)
  | add (key : String) (value : Datum)
  | overlay (upper : NamedInserts)
  | rebuild (pairs : List (String × Insert))
  | decode (text : String)

namespace Change

def outcome (change : Change) (inserts : NamedInserts) : Except Refusal NamedInserts :=
  match change with
  | set key value => .ok (inserts.set key value)
  | add key value => (inserts.add key value).mapError .insert
  | overlay upper => .ok (inserts.overlay upper)
  | rebuild pairs => .ok (ofPairs pairs)
  | decode text => Refusal.orUnreadable (ofText? text)

/-- The pairs written, when the change succeeds. -/
def writes? : Change → Option (Writing (String × Insert))
  | set key value => some (.more [(key, value)])
  | add key value => value.toInsert.toOption.map fun insert => .more [(key, insert)]
  | overlay upper => some (.more upper.entries)
  | rebuild pairs => some (.anew pairs)
  | decode text => (pairsOfText? text).map .anew

/-- The changes that fail, and why: the state does not matter. -/
inductive Refused : Change → Refusal → Prop where
  | add {key : String} {value : Datum} {cause : Unsupported}
      (failed : value.toInsert = .error cause) :
      Refused (.add key value) (.insert (.unsupported (.key key) cause))
  | decode {text : String} (failed : pairsOfText? text = none) : Refused (.decode text) .unreadable

theorem outcome_add (key : String) (value : Datum) (inserts : NamedInserts) :
    (add key value).outcome inserts =
      match value.toInsert with
      | .ok insert => .ok (inserts.set key insert)
      | .error cause => .error (.insert (.unsupported (.key key) cause)) := by
  cases formed : value.toInsert <;> simp [outcome, NamedInserts.add, formed, Except.mapError]

theorem set_ofPairs (record : List (String × Insert)) (key : String) (value : Insert) :
    (ofPairs record).set key value = ofPairs (record ++ [(key, value)]) := by
  simp only [NamedInserts.set, ofPairs, Keyed.ofPairs_concat]

theorem overlay_ofPairs (record : List (String × Insert)) (upper : NamedInserts) :
    (ofPairs record).overlay upper = ofPairs (record ++ upper.entries) := by
  simp only [NamedInserts.overlay, ofPairs, Keyed.overlay_ofPairs]

theorem after_ofPairs (record : List (String × Insert)) (change : Change) :
    after outcome (ofPairs record) change =
      ofPairs ((change.writes?.map (Writing.onto record)).getD record) := by
  cases change with
  | set key value => exact set_ofPairs record key value
  | add key value =>
      rw [after, outcome_add, writes?]
      cases value.toInsert with
      | ok insert => exact set_ofPairs record key insert
      | error cause => rfl
  | overlay upper => exact overlay_ofPairs record upper
  | rebuild pairs => rfl
  | decode text =>
      rw [after, outcome, ofText?_eq, writes?]
      cases pairsOfText? text <;> rfl

theorem outcome_error_iff {change : Change} {inserts : NamedInserts} {refusal : Refusal} :
    change.outcome inserts = .error refusal ↔ Refused change refusal := by
  constructor
  · intro failed
    cases change with
    | add key value =>
        rw [outcome_add] at failed
        cases formed : value.toInsert with
        | ok insert => simp [formed] at failed
        | error cause =>
            rw [formed] at failed
            cases failed
            exact .add formed
    | decode text =>
        obtain ⟨unread, rfl⟩ := Refusal.orUnreadable_error_iff.mp failed
        rw [ofText?_eq, Option.map_eq_none_iff] at unread
        exact .decode unread
    | _ => cases failed
  · intro refused
    cases refused with
    | add formed => rw [outcome_add, formed]
    | decode unread =>
        exact Refusal.orUnreadable_error_iff.mpr ⟨by rw [ofText?_eq, unread, Option.map_none], rfl⟩

end Change

def run (changes : List Change) : NamedInserts := runFrom Change.outcome empty changes

/-- The pairs written in a run since the set was last made anew. -/
def written (changes : List Change) : List (String × Insert) :=
  Writing.total (changes.filterMap Change.writes?)

theorem run_eq_ofPairs (changes : List Change) : run changes = ofPairs (written changes) :=
  runFrom_eq_total Change.after_ofPairs changes

/-- What a run does, in terms of the pairs written in it. -/
structure FollowsWriting (changes : List Change) : Prop where
  distinct : (run changes).keys.Nodup
  keys : ∀ key, key ∈ (run changes).keys ↔ key ∈ Keyed.keys (written changes)
  order : (run changes).keys.Pairwise fun earlier later =>
    (Keyed.keys (written changes)).idxOf earlier < (Keyed.keys (written changes)).idxOf later
  latest : ∀ key, (run changes).get? key = Keyed.get? key (written changes).reverse
  refused : ∀ (change : Change) refusal, change.outcome (run changes) = .error refusal ↔
    change.Refused refusal
  unchanged :
    ∀ (change : Change) refusal, change.Refused refusal → run (changes ++ [change]) = run changes
  successes : run (successes Change.outcome empty changes) = run changes

theorem follows_writing (changes : List Change) : FollowsWriting changes where
  distinct := (run changes).distinct
  keys key := by
    rw [run_eq_ofPairs]
    exact Keyed.mem_keys_ofPairs key (written changes)
  order := by
    rw [run_eq_ofPairs]
    exact Keyed.keys_ofPairs_order (written changes)
  latest key := by
    rw [run_eq_ofPairs]
    exact Keyed.get?_ofPairs key (written changes)
  refused _ _ := Change.outcome_error_iff
  unchanged change refusal refused := by
    rw [run, runFrom_concat]
    exact after_of_error (Change.outcome_error_iff.mpr refused)
  successes := runFrom_successes empty changes

example :
    (run [.set "b" (.text "1"), .set "a" (.text "2"), .add "c" (.refused "function"),
      .set "b" (.text "3")]).keys =
    ["b", "a"] := by decide

end NamedInserts

namespace PositionalInserts

/-- The values that a JSON text lists. -/
def ofText? (text : String) : Option PositionalInserts :=
  (Node.ofText? .json .whole text).bind ofNode?

inductive Change where
  | push (value : Datum)
  | rebuild (values : List Insert)
  | decode (text : String)

namespace Change

def outcome (change : Change) (inserts : PositionalInserts) : Except Refusal PositionalInserts :=
  match change with
  | push value => (PositionalInserts.push value inserts).mapError .insert
  | rebuild values => .ok values
  | decode text => Refusal.orUnreadable (ofText? text)

/-- The values written, when the change succeeds. -/
def writes? : Change → Option (Writing Insert)
  | push value => value.toInsert.toOption.map fun insert => .more [insert]
  | rebuild values => some (.anew values)
  | decode text => (ofText? text).map .anew

/-- The changes that fail, and why: a value that cannot be pushed is blamed on the place it would
have had. -/
inductive Refused (inserts : PositionalInserts) : Change → Refusal → Prop where
  | push {value : Datum} {cause : Unsupported} (failed : value.toInsert = .error cause) :
      Refused inserts (.push value) (.insert (.unsupported (.index inserts.length) cause))
  | decode {text : String} (failed : ofText? text = none) :
      Refused inserts (.decode text) .unreadable

theorem outcome_push (value : Datum) (inserts : PositionalInserts) :
    (push value).outcome inserts =
      match value.toInsert with
      | .ok insert => .ok (inserts ++ [insert])
      | .error cause => .error (.insert (.unsupported (.index inserts.length) cause)) := by
  cases formed : value.toInsert <;> simp [outcome, PositionalInserts.push, formed, Except.mapError]

theorem after_eq (inserts : PositionalInserts) (change : Change) :
    after outcome inserts change = (change.writes?.map (Writing.onto inserts)).getD inserts := by
  cases change with
  | push value =>
      rw [after, outcome_push, writes?]
      cases value.toInsert <;> rfl
  | rebuild values => rfl
  | decode text =>
      rw [after, outcome, writes?]
      cases ofText? text <;> rfl

theorem outcome_error_iff {change : Change} {inserts : PositionalInserts} {refusal : Refusal} :
    change.outcome inserts = .error refusal ↔ Refused inserts change refusal := by
  constructor
  · intro failed
    cases change with
    | push value =>
        rw [outcome_push] at failed
        cases formed : value.toInsert with
        | ok insert => simp [formed] at failed
        | error cause =>
            rw [formed] at failed
            cases failed
            exact .push formed
    | rebuild values => cases failed
    | decode text =>
        obtain ⟨unread, rfl⟩ := Refusal.orUnreadable_error_iff.mp failed
        exact .decode unread
  · intro refused
    cases refused with
    | push formed => rw [outcome_push, formed]
    | decode unread => exact Refusal.orUnreadable_error_iff.mpr ⟨unread, rfl⟩

end Change

def run (changes : List Change) : PositionalInserts := runFrom Change.outcome [] changes

/-- The values written in a run since the list was last made anew. -/
def written (changes : List Change) : List Insert :=
  Writing.total (changes.filterMap Change.writes?)

theorem run_eq_written (changes : List Change) : run changes = written changes :=
  runFrom_eq_total Change.after_eq changes

theorem run_push (changes : List Change) (values : List Datum) :
    run (changes ++ values.map .push) =
      run changes ++ values.filterMap fun value => value.toInsert.toOption := by
  induction values using List.reverseRecOn with
  | nil => simp
  | append_singleton values value induction =>
      rw [List.map_append, ← List.append_assoc, List.map_singleton, run, runFrom_concat, ← run,
        induction, Change.after_eq, List.filterMap_append]
      cases formed : value.toInsert with
      | ok insert => simp [Change.writes?, formed, Except.toOption, Writing.onto]
      | error cause => simp [Change.writes?, formed, Except.toOption]

/-- What a run does, in terms of the values written in it. -/
structure FollowsWriting (changes : List Change) : Prop where
  holds : run changes = written changes
  pushed : ∀ values : List Datum,
    run (changes ++ values.map .push) =
      run changes ++ values.filterMap fun value => value.toInsert.toOption
  refused : ∀ (change : Change) refusal,
    change.outcome (run changes) = .error refusal ↔ change.Refused (run changes) refusal
  unchanged : ∀ (change : Change) refusal, change.Refused (run changes) refusal →
    run (changes ++ [change]) = run changes
  successes : run (successes Change.outcome [] changes) = run changes

theorem follows_writing (changes : List Change) : FollowsWriting changes where
  holds := run_eq_written changes
  pushed := run_push changes
  refused _ _ := Change.outcome_error_iff
  unchanged change refusal refused := by
    rw [run, runFrom_concat]
    exact after_of_error (Change.outcome_error_iff.mpr refused)
  successes := runFrom_successes [] changes

end PositionalInserts

/-- Whatever is done to a container, it holds what was written, and what fails has no part in it. -/
theorem containers_follow_writing :
    (∀ changes, NamedInserts.FollowsWriting changes) ∧
      ∀ changes, PositionalInserts.FollowsWriting changes :=
  ⟨NamedInserts.follows_writing, PositionalInserts.follows_writing⟩

end MessageCatalog
