import MessageCatalog.Document.Node
import MessageCatalog.Proofs.Keyed
import MessageCatalog.Proofs.Outcome

/-!
Reading the members of objects into associations. The keys of what is read are distinct. Objects
that differ in the order of their members only cannot be read either, or give associations that
differ in order only, so that every look-up finds the same.
-/

namespace MessageCatalog

namespace Keyed

variable {Value Other Key : Type}

/-- The same entries, in another order only where no key repeats. -/
def Permuted (left right : Keyed Value Key) : Prop := left = right ∨ Distinct left ∧ left.Perm right

/-- The same keys in the same order, with related values. -/
def Paired (related : Value → Other → Prop) (left : Keyed Value Key)
    (right : Keyed Other Key) : Prop :=
  List.Forall₂ (fun entry other => entry.1 = other.1 ∧ related entry.2 other.2) left right

/-- The same keys with related values, in another order only where no key repeats. -/
def Reordered (related : Value → Other → Prop) (left : Keyed Value Key)
    (right : Keyed Other Key) : Prop :=
  ∃ middle, Permuted left middle ∧ Paired related middle right

variable {related : Value → Other → Prop} {left : Keyed Value Key} {right : Keyed Other Key}

theorem Paired.of_same {related : Value → Value → Prop} {entries : Keyed Value Key}
    (same : ∀ entry ∈ entries, related entry.2 entry.2) : Paired related entries entries := by
  rw [Paired, List.forall₂_same]
  intro entry member
  exact ⟨rfl, same entry member⟩

theorem Paired.eq {left right : Keyed Value Key} (paired : Paired Eq left right) :
    left = right := by
  rw [← List.forall₂_eq_eq_eq]
  exact paired.imp fun entry other parts => Prod.ext parts.1 parts.2

theorem Reordered.of_same {related : Value → Value → Prop} {entries : Keyed Value Key}
    (same : ∀ entry ∈ entries, related entry.2 entry.2) : Reordered related entries entries :=
  ⟨entries, Or.inl rfl, .of_same same⟩

theorem Reordered.perm {left right : Keyed Value Key} (reordered : Reordered Eq left right) :
    left.Perm right := by
  obtain ⟨middle, permuted, paired⟩ := reordered
  rw [← paired.eq]
  rcases permuted with same | ⟨_, same⟩
  · rw [same]
  · exact same

variable [DecidableEq Key]

theorem Paired.get? (paired : Paired related left right) (key : Key) :
    Option.Rel related (left.get? key) (right.get? key) := by
  induction paired with
  | nil => exact .none
  | @cons entry other rest others first _ induction =>
      by_cases same : entry.1 = key
      · have otherSame : other.1 = key := first.1.symm.trans same
        simp only [Keyed.get?, same, otherSame, if_true]
        exact .some first.2
      · have differs : ¬ other.1 = key := fun equal => same (first.1.trans equal)
        simp only [Keyed.get?, same, differs, if_false]
        exact induction

theorem Reordered.get? (reordered : Reordered related left right) (key : Key) :
    Option.Rel related (left.get? key) (right.get? key) := by
  obtain ⟨middle, permuted, paired⟩ := reordered
  have lookups : left.get? key = middle.get? key := by
    rcases permuted with same | ⟨distinct, same⟩
    · rw [same]
    · exact get?_of_perm key distinct same
  rw [lookups]
  exact paired.get? key

theorem Paired.put (paired : Paired related left right) (key : Key) {value : Value} {other : Other}
    (values : related value other) : Paired related (left.put key value) (right.put key other) := by
  induction paired with
  | nil => exact .cons ⟨rfl, values⟩ .nil
  | @cons entry otherEntry rest others first tails induction =>
      by_cases same : entry.1 = key
      · have otherSame : otherEntry.1 = key := first.1.symm.trans same
        simp only [Keyed.put, same, otherSame, if_true]
        exact .cons ⟨rfl, values⟩ tails
      · have differs : ¬ otherEntry.1 = key := fun equal => same (first.1.trans equal)
        simp only [Keyed.put, same, differs, if_false]
        exact .cons first induction

theorem Paired.overlay {lower : Keyed Value Key} {otherLower : Keyed Other Key}
    (below : Paired related lower otherLower) (above : Paired related left right) :
    Paired related (lower.overlay left) (otherLower.overlay right) := by
  induction above generalizing lower otherLower with
  | nil => exact below
  | @cons entry other rest others first _ induction =>
      apply induction
      change Paired related (lower.put entry.1 entry.2) (otherLower.put other.1 other.2)
      rw [← first.1]
      exact below.put entry.1 first.2

theorem Paired.ofPairs (paired : Paired related left right) :
    Paired related (ofPairs left) (ofPairs right) :=
  Paired.overlay .nil paired

end Keyed

namespace Node

variable {Value : Type} {read : Node → Option Value} {node left right : Node}

/-- Reads the value of one member. -/
def readMember (read : Node → Option Value) (member : String × Node) : Option (String × Value) :=
  (read member.2).map fun value => (member.1, value)

theorem keyed?_eq (read : Node → Option Value) {members : List (String × Node)}
    (given : node.members? = some members) :
    node.keyed? read = (members.mapM (readMember read)).map Keyed.ofPairs := by
  rw [keyed?, given]
  change (members.mapM (readMember read) >>= fun pairs => some (Keyed.ofPairs pairs)) = _
  cases members.mapM (readMember read) <;> rfl

theorem keyed?_eq_some_iff {entries : Keyed Value} :
    node.keyed? read = some entries ↔ ∃ members pairs, node.members? = some members ∧
      members.mapM (readMember read) = some pairs ∧ Keyed.ofPairs pairs = entries := by
  cases given : node.members? with
  | none => simp [keyed?, given]
  | some members => simp [keyed?_eq read given]

theorem keyed?_distinct {entries : Keyed Value} (success : node.keyed? read = some entries) :
    Keyed.Distinct entries := by
  obtain ⟨members, pairs, _, _, rfl⟩ := keyed?_eq_some_iff.mp success
  exact Keyed.distinct_ofPairs pairs

theorem forall_keyed? {Holds : Value → Prop} {entries : Keyed Value}
    (each : ∀ members, node.members? = some members →
      ∀ member ∈ members, ∀ value, read member.2 = some value → Holds value)
    (success : node.keyed? read = some entries) : ∀ entry ∈ entries, Holds entry.2 := by
  obtain ⟨members, pairs, given, listed, rfl⟩ := keyed?_eq_some_iff.mp success
  apply Keyed.forall_ofPairs
  intro pair inside
  obtain ⟨member, source, converted⟩ := Outcome.mem_of_mapM listed pair inside
  obtain ⟨value, found, rfl⟩ := Option.map_eq_some_iff.mp converted
  exact each members given member source value found

theorem keys_of_mapM {members : List (String × Node)} {pairs : List (String × Value)}
    (success : members.mapM (readMember read) = some pairs) :
    Keyed.keys pairs = Keyed.keys members := by
  rw [Outcome.mapM_eq_some_iff] at success
  induction success with
  | nil => rfl
  | cons first _ induction =>
      obtain ⟨value, _, rfl⟩ := Option.map_eq_some_iff.mp first
      exact congrArg (List.cons _) induction

/-- Members under names of their own are all kept as they are read. -/
theorem ofPairs_of_mapM {members : List (String × Node)} {pairs : List (String × Value)}
    (distinct : Keyed.Distinct members) (success : members.mapM (readMember read) = some pairs) :
    Keyed.Distinct pairs ∧ Keyed.ofPairs pairs = pairs := by
  have apart : Keyed.Distinct pairs := by
    rw [Keyed.Distinct, keys_of_mapM success]
    exact distinct
  exact ⟨apart, Keyed.ofPairs_of_distinct pairs apart⟩

section Order

/-- The same node, or one with the same members, in another order only where no name repeats, and
with related values. -/
inductive Reordered (related : Node → Node → Prop) : Node → Node → Prop where
  | same (node : Node) : Reordered related node node
  | members {left right : Node} {leftMembers rightMembers : List (String × Node)}
      (leftRead : left.members? = some leftMembers) (rightRead : right.members? = some rightMembers)
      (reordered : Keyed.Reordered related leftMembers rightMembers) : Reordered related left right

variable {related : Node → Node → Prop} {alike : Value → Value → Prop}

theorem readMember_alike
    (each : ∀ left right, related left right → Option.Rel alike (read left) (read right))
    (member other : String × Node) (parts : member.1 = other.1 ∧ related member.2 other.2) :
    Option.Rel (fun pair otherPair => pair.1 = otherPair.1 ∧ alike pair.2 otherPair.2)
      (readMember read member) (readMember read other) := by
  have values := each member.2 other.2 parts.2
  unfold readMember
  generalize read member.2 = value at values ⊢
  generalize read other.2 = otherValue at values ⊢
  cases values with
  | none => exact .none
  | some alikeValues => exact .some ⟨parts.1, alikeValues⟩

/-- Reading members under names of their own in another order. -/
theorem ofPairs_mapM_perm {members others : List (String × Node)}
    (distinct : Keyed.Distinct members) (same : members.Perm others) :
    Option.Rel Keyed.Permuted ((members.mapM (readMember read)).map Keyed.ofPairs)
      ((others.mapM (readMember read)).map Keyed.ofPairs) := by
  have apart : Keyed.Distinct others := (same.map Prod.fst).nodup_iff.mp distinct
  have moved := Outcome.perm_mapM (readMember read) same
  cases given : members.mapM (readMember read) with
  | none =>
      rw [given] at moved
      cases otherGiven : others.mapM (readMember read) with
      | none => exact .none
      | some pairs => rw [otherGiven] at moved; cases moved
  | some pairs =>
      rw [given] at moved
      cases otherGiven : others.mapM (readMember read) with
      | none => rw [otherGiven] at moved; cases moved
      | some otherPairs =>
          rw [otherGiven] at moved
          cases moved with
          | some permuted =>
              obtain ⟨pairsApart, kept⟩ := ofPairs_of_mapM distinct given
              obtain ⟨_, otherKept⟩ := ofPairs_of_mapM apart otherGiven
              rw [Option.map_some, Option.map_some, kept, otherKept]
              exact .some (Or.inr ⟨pairsApart, permuted⟩)

theorem ofPairs_mapM_alike {members others : List (String × Node)}
    (each : ∀ left right, related left right → Option.Rel alike (read left) (read right))
    (paired : Keyed.Paired related members others) :
    Option.Rel (Keyed.Paired alike) ((members.mapM (readMember read)).map Keyed.ofPairs)
      ((others.mapM (readMember read)).map Keyed.ofPairs) :=
  Outcome.rel_map (Outcome.rel_mapM (readMember_alike each) paired) fun _ _ => Keyed.Paired.ofPairs

/-- Objects that differ in order only are read alike, if related values are. -/
theorem keyed?_reordered
    (each : ∀ left right, related left right → Option.Rel alike (read left) (read right))
    (itself : ∀ node value, read node = some value → alike value value)
    (reordered : Reordered related left right) :
    Option.Rel (Keyed.Reordered alike) (left.keyed? read) (right.keyed? read) := by
  cases reordered with
  | same =>
      cases found : left.keyed? read with
      | none => exact .none
      | some entries =>
          refine .some (.of_same ?_)
          exact forall_keyed? (fun _ _ member _ => itself member.2) found
  | members leftRead rightRead reordered =>
      obtain ⟨middle, permuted, paired⟩ := reordered
      rw [keyed?_eq read leftRead, keyed?_eq read rightRead]
      have converted := ofPairs_mapM_alike each paired
      rcases permuted with rfl | ⟨distinct, same⟩
      · exact Outcome.rel_mono (fun entries others pairs => ⟨entries, Or.inl rfl, pairs⟩) converted
      · refine Outcome.rel_trans ?_ (ofPairs_mapM_perm distinct same) converted
        intro entries between others moved pairs
        exact ⟨between, moved, pairs⟩

end Order

end Node

end MessageCatalog
