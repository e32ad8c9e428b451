import MessageCatalog.Document.Reader
import MessageCatalog.Proofs.Json.Reading

/-!
What the YAML reader establishes, which is the same as for JSON: the scalars of a document read as
single values with whole numbers that fit. The nodes are built in levels, so the invariant goes from
level to level, and on each of them through the trees that the aliases of the level above stand for.
-/

namespace MessageCatalog

namespace Yaml

section Scalars

variable {text : List Char} {value : Json}

theorem isScalar_wholeJson? {whole : Int} (read : wholeJson? whole = some value) :
    value.IsScalar := by
  unfold wholeJson? at read
  split at read
  · next fits =>
      cases read
      exact fits
  · cases read

theorem isScalar_readFloat? (read : readFloat? text = some value) : value.IsScalar := by
  unfold readFloat? at read
  split at read
  · cases read
    trivial
  · simp only [Option.bind_eq_bind, Option.bind_eq_some_iff, Option.some.injEq] at read
    obtain ⟨numeral, _, double, _, rfl⟩ := read
    trivial

theorem isScalar_floatOrText : ((readFloat? text).getD (.text (String.ofList text))).IsScalar := by
  cases read : readFloat? text with
  | none => trivial
  | some value => exact isScalar_readFloat? read

theorem isScalar_plainValue? (read : plainValue? text = some value) : value.IsScalar := by
  unfold plainValue? at read
  split at read
  · cases read
    trivial
  · split at read
    · cases read
      trivial
    · split at read
      · exact isScalar_wholeJson? read
      · cases read
        exact isScalar_floatOrText
    · split at read
      · cases read
        trivial
      · cases read
        exact isScalar_floatOrText

theorem isScalar_taggedValue? {tag : List Char} (read : taggedValue? tag text = some value) :
    value.IsScalar := by
  unfold taggedValue? at read
  split_ifs at read
  · obtain ⟨flag, _, rfl⟩ := Option.map_eq_some_iff.mp read
    trivial
  · obtain ⟨whole, _, wholeRead⟩ := Option.bind_eq_some_iff.mp read
    exact isScalar_wholeJson? wholeRead
  · exact isScalar_readFloat? read
  · cases read
    trivial
  · cases read
    trivial

theorem isScalar_value? {tag : Option (List Char)} {style : ScalarStyle}
    (read : value? tag style text = some value) :
    value.IsScalar := by
  unfold value? at read
  split at read
  · exact isScalar_taggedValue? read
  · split at read
    · exact isScalar_plainValue? read
    · cases read
      trivial

end Scalars

theorem settled_readings (tag : Option (List Char)) (style : ScalarStyle) (text : List Char) :
    (Node.scalar (readings tag style text)).Settled := .scalar fun _ read => isScalar_value? read

namespace Expanded

theorem settled_cutOff : cutOff.node.Settled := .scalar fun _ read => nomatch read

theorem settled_ownIfTagged {node : Node} (tag : Option (List Char)) (settled : node.Settled) :
    (ownIfTagged tag node).Settled := by
  unfold ownIfTagged
  split
  · exact .owned settled
  · exact settled

theorem settled_ofItems {items : List Expanded} (tag : Option (List Char))
    (each : ∀ item ∈ items, item.node.Settled) :
    (ofItems tag items).node.Settled :=
  settled_ownIfTagged tag (.sequence (List.forall_mem_map.mpr each))

theorem settled_ofMembers {members : List (Expanded × Expanded)} (tag : Option (List Char))
    (each : ∀ member ∈ members, member.2.node.Settled) : (ofMembers tag members).node.Settled :=
  settled_ownIfTagged tag (.mapping (List.forall_mem_map.mpr each))

end Expanded

/-- All nodes of a level read as single values in their scalars. -/
def Level.Settled (level : Level) : Prop := ∀ entry ∈ level, entry.2.node.Settled

theorem Level.settled_at {level : Level} (settled : level.Settled) (number : Nat) :
    (level.at number).node.Settled := by
  rw [Level.at]
  cases found : level.lookup number with
  | none => exact Expanded.settled_cutOff
  | some target =>
      obtain ⟨before, after, shape, _⟩ := List.lookup_eq_some_iff.mp found
      exact settled (number, target) (by simp [shape])

section Trees

variable {below : Level}

mutual

theorem settled_expand (settled : below.Settled) :
    ∀ tree : NumberedTree, (expand below tree).node.Settled
  | .alias number => by
      rw [expand]
      exact Level.settled_at settled number
  | .scalar properties style text => by
      rw [expand]
      exact settled_readings properties.tag style text
  | .sequence properties items => by
      rw [expand]
      exact Expanded.settled_ofItems properties.tag (settled_expandItems settled items)
  | .mapping properties members => by
      rw [expand]
      exact Expanded.settled_ofMembers properties.tag (settled_expandMembers settled members)

theorem settled_expandItems (settled : below.Settled) : ∀ items : List NumberedTree,
    ∀ item ∈ expandItems below items, item.node.Settled
  | [] => List.forall_mem_nil _
  | item :: rest =>
      List.forall_mem_cons.mpr ⟨settled_expand settled item, settled_expandItems settled rest⟩

theorem settled_expandMembers (settled : below.Settled) :
    ∀ members : List (NumberedTree × NumberedTree),
    ∀ member ∈ expandMembers below members, member.2.node.Settled
  | [] => List.forall_mem_nil _
  | (_, value) :: rest =>
      List.forall_mem_cons.mpr ⟨settled_expand settled value, settled_expandMembers settled rest⟩

end

end Trees

theorem settled_levelAt (targets : Targets) (height : Nat) : (levelAt targets height).Settled := by
  induction height with
  | zero => exact List.forall_mem_nil _
  | succ height induction =>
      intro entry member
      obtain ⟨target, _, rfl⟩ := List.mem_map.mp member
      exact settled_expand induction target.2

theorem settled_readNode? {text : List Char} {node : Node}
    (success : readNode? .whole text = some node) :
    node.Settled := by
  simp only [readNode?, Option.bind_eq_bind, Option.bind_eq_some_iff] at success
  obtain ⟨tokens, _, tree, _, success⟩ := success
  split at success
  · cases success
    refine .scalar fun value read => ?_
    cases read
    trivial
  · obtain ⟨numbered, _, success⟩ := Option.bind_eq_some_iff.mp success
    obtain ⟨read, selected, success⟩ := Option.bind_eq_some_iff.mp success
    rw [Anchorage.select] at selected
    cases selected
    split at success
    · cases success
      exact settled_expand (settled_levelAt _ _) numbered.1
    · cases success

end Yaml

/-- The scalars of a document read as single values, in whichever form it is written. -/
theorem Node.settled_ofText? {form : DocumentForm} {text : String} {node : Node}
    (success : ofText? form .whole text = some node) : node.Settled := by
  cases form with
  | json => exact Json.settled_readNode? success
  | yaml => exact Yaml.settled_readNode? success

end MessageCatalog
