import MessageCatalog.Catalog.Entry
import MessageCatalog.Document.Reader
import MessageCatalog.Proofs.Document.Members
import MessageCatalog.Proofs.Json.Writing

/-!
Records that are written with their own fields first and all other members behind them. When the
fields come in order and no other member has the name of a field, the decoders find each field where
it was written and take all the rest as it was.
-/

namespace MessageCatalog

namespace Node

variable {node : Node} {members : List (String × Node)}

theorem members?_mapping {pairs : List (Node × Node)}
    (given : (mapping pairs).members? = some members) :
    ∀ member ∈ members, ∃ pair ∈ pairs, member.2 = pair.2 := by
  intro member inside
  obtain ⟨pair, listed, read⟩ := Outcome.mem_of_mapM given member inside
  obtain ⟨key, _, rfl⟩ := Option.map_eq_some_iff.mp read
  exact ⟨pair, listed, rfl⟩

theorem members?_scalar {readings : Scalar} (given : (scalar readings).members? = some members) :
    members = [] := by
  rw [members?] at given
  split at given
  · cases given
    rfl
  · cases given

theorem settled_members? (settled : node.Settled) (given : node.members? = some members) :
    ∀ member ∈ members, member.2.Settled := by
  induction settled with
  | scalar scalars =>
      rw [members?_scalar given]
      exact List.forall_mem_nil _
  | sequence each induction => cases given
  | mapping each induction =>
      intro member inside
      obtain ⟨pair, listed, same⟩ := members?_mapping given member inside
      rw [same]
      exact each pair listed
  | owned inside induction =>
      rw [members?] at given
      exact induction given

theorem nestsWithin_members? {limit : Nat} (nests : node.nestsWithin (limit + 1) = true)
    (given : node.members? = some members) :
    ∀ member ∈ members, member.2.nestsWithin limit = true := by
  induction node using members?.induct with
  | case1 pairs =>
      intro member inside
      obtain ⟨pair, listed, same⟩ := members?_mapping given member inside
      rw [same]
      exact (membersNestWithin_iff.mp nests pair listed).2
  | case2 readings void =>
      rw [members?_scalar given]
      exact List.forall_mem_nil _
  | case3 readings written =>
      rw [members?_scalar given]
      exact List.forall_mem_nil _
  | case4 items => cases given
  | case5 inner induction =>
      rw [nestsWithin] at nests
      rw [members?] at given
      exact induction nests given

/-- The members of the node of an object. -/
def nodesOf (members : List (String × Json)) : List (String × Node) :=
  members.map fun member => (member.1, ofJson member.2)

theorem members?_ofJson (members : List (String × Json)) :
    (ofJson (.object members)).members? = some (nodesOf members) := by
  rw [ofJson, members?, ofMembers_eq_map, Outcome.mapM_eq_some_iff, nodesOf,
    List.forall₂_map_left_iff, List.forall₂_map_right_iff, List.forall₂_same]
  intro member _
  rfl

theorem field?_nodesOf {members : List (String × Json)} (distinct : Keyed.Distinct members)
    (name : String) :
    field? name (nodesOf members) = some ((Keyed.get? name members).map ofJson) := by
  have filtered : (nodesOf members).filter (fun member => member.1 == name) =
      nodesOf (members.filter fun member => member.1 == name) := by
    rw [nodesOf, List.filter_map]
    rfl
  rw [field?, filtered, Keyed.filter_key distinct]
  cases Keyed.get? name members <;> rfl

end Node

namespace Entry

variable {fields : List String} {own extra : Keyed Json}

/-- The parts of a written record: its own fields in order, and others under other names. -/
structure Written (fields : List String) (own extra : Keyed Json) : Prop where
  ordered : own.keys.Sublist fields
  distinct : Keyed.Distinct extra
  foreign : ∀ name ∈ extra.keys, name ∉ fields
  sound : ∀ member ∈ own ++ extra, member.2.Sound

namespace Written

theorem own_mem (written : Written fields own extra) {member : String × Json}
    (inside : member ∈ own) :
    member.1 ∈ fields := written.ordered.subset (Keyed.key_mem_keys inside)

theorem members_distinct (written : Written fields own extra) (nodup : fields.Nodup) :
    Keyed.Distinct (own ++ extra) := by
  rw [Keyed.Distinct, Keyed.keys, List.map_append, List.nodup_append']
  refine ⟨nodup.sublist written.ordered, written.distinct, ?_⟩
  intro name inOwn inExtra
  exact written.foreign name inExtra (written.ordered.subset inOwn)

theorem object_sound (written : Written fields own extra) (nodup : fields.Nodup) :
    (Json.object (own ++ extra)).Sound := .object (written.members_distinct nodup) written.sound

theorem get?_field (written : Written fields own extra) {name : String} (field : name ∈ fields) :
    Keyed.get? name (own ++ extra) = own.get? name := by
  have absent : extra.get? name = none := by
    rw [Keyed.get?_eq_none_iff]
    exact fun inside => written.foreign name inside field
  rw [Keyed.get?_append, absent, Option.or_none]

theorem get?_other (written : Written fields own extra) {name : String} (foreign : name ∉ fields) :
    Keyed.get? name (own ++ extra) = extra.get? name := by
  have absent : own.get? name = none := by
    rw [Keyed.get?_eq_none_iff]
    exact fun inside => foreign (written.ordered.subset inside)
  rw [Keyed.get?_append, absent, Option.none_or]

/-- What is taken for the other members is just these. -/
theorem readExtra?_eq (written : Written fields own extra) :
    readExtra? fields (Node.nodesOf (own ++ extra)) = some extra := by
  have ownOut : own.filter (fun member => !fields.contains member.1) = [] := by
    rw [List.filter_eq_nil_iff]
    intro member inside
    simpa using written.own_mem inside
  have extraKept : extra.filter (fun member => !fields.contains member.1) = extra := by
    rw [List.filter_eq_self]
    intro member inside
    simpa using written.foreign member.1 (Keyed.key_mem_keys inside)
  have others : (Node.nodesOf (own ++ extra)).filter (fun member => !fields.contains member.1) =
      Node.nodesOf extra := by
    rw [Node.nodesOf, List.filter_map]
    change List.map _ ((own ++ extra).filter fun member => !fields.contains member.1) = _
    rw [List.filter_append, ownOut, extraKept, List.nil_append, Node.nodesOf]
  have asWritten :
      (Node.nodesOf extra).mapM (fun member => member.2.asIs?.map fun value => (member.1, value)) =
        some extra := by
    rw [Outcome.mapM_eq_some_iff, Node.nodesOf, List.forall₂_map_left_iff, List.forall₂_same]
    intro member inside
    rw [Node.asIs?_ofJson (written.sound member (List.mem_append_right own inside)),
      Option.map_some]
  rw [readExtra?, others, asWritten]
  exact congrArg some (Keyed.ofPairs_of_distinct extra written.distinct)

end Written

section Decoded

variable {members : List (String × Node)}

theorem mem_of_readExtra? (taken : readExtra? fields members = some extra) :
    ∀ other ∈ extra, other.1 ∉ fields ∧ ∃ member ∈ members, member.2.asIs? = some other.2 := by
  simp only [readExtra?, Option.bind_eq_bind, Option.bind_eq_some_iff, Option.some.injEq] at taken
  obtain ⟨pairs, listed, rfl⟩ := taken
  intro other inside
  obtain ⟨member, source, read⟩ := Outcome.mem_of_mapM listed other (Keyed.mem_ofPairs inside)
  obtain ⟨value, valueRead, rfl⟩ := Option.map_eq_some_iff.mp read
  obtain ⟨given, foreign⟩ := List.mem_filter.mp source
  exact ⟨by simpa using foreign, member, given, valueRead⟩

theorem distinct_readExtra? (taken : readExtra? fields members = some extra) :
    Keyed.Distinct extra := by
  simp only [readExtra?, Option.bind_eq_bind, Option.bind_eq_some_iff, Option.some.injEq] at taken
  obtain ⟨pairs, _, rfl⟩ := taken
  exact Keyed.distinct_ofPairs pairs

theorem mem_of_readField? {Value : Type} {read : Node → Option Value} {name : String}
    {value : Value} (taken : readField? read name members = some (some value)) :
    ∃ member ∈ members, read member.2 = some value := by
  simp only [readField?, Option.bind_eq_bind, Option.bind_eq_some_iff] at taken
  obtain ⟨given, found, taken⟩ := taken
  cases given with
  | none => cases taken
  | some node =>
      simp only [Node.optional?, Option.bind_eq_bind, Option.bind_eq_some_iff] at taken
      obtain ⟨absent, _, taken⟩ := taken
      split at taken
      · cases taken
      · obtain ⟨content, reads, same⟩ := Option.map_eq_some_iff.mp taken
        cases same
        unfold Node.field? at found
        split at found
        · cases found
        · next member filtered =>
            cases found
            have listed : member ∈ members :=
              (List.mem_filter.mp (filtered ▸ List.mem_singleton_self member)).1
            exact ⟨member, listed, reads⟩
        · cases found

end Decoded

/-- A field is read as the value that was written. -/
theorem readField?_written {Value : Type} {read : Node → Option Value} {write : Value → Json}
    {name : String} {members : Keyed Json} {value : Option Value}
    (distinct : Keyed.Distinct members) (found : members.get? name = value.map write)
    (given : ∀ content, value = some content →
      (Node.ofJson (write content)).absence? = some false ∧
        read (Node.ofJson (write content)) = some content) :
    readField? read name (Node.nodesOf members) = some value := by
  rw [readField?, Node.field?_nodesOf distinct, found]
  cases value with
  | none => rfl
  | some content =>
      obtain ⟨present, reads⟩ := given content rfl
      simp [Node.optional?, present, reads]

end Entry

end MessageCatalog
