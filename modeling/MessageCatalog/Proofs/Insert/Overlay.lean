import MessageCatalog.Insert.Named
import MessageCatalog.Proofs.Keyed

/-!
Writing one insert set over another. A set is determined by its keys in their order and the value
under each of them, so the laws come down to the keys of an overlay and to its values: overlaying
can be regrouped but not reordered, the empty set changes nothing, and writing what is there already
changes nothing either.
-/

namespace MessageCatalog.NamedInserts

variable {left right lower middle upper : NamedInserts}

theorem ext_keys (sameKeys : left.keys = right.keys)
    (sameValues : ∀ key, left.get? key = right.get? key) :
    left = right := by
  have same : left.entries = right.entries :=
    Keyed.eq_of_same_keys left.distinct sameKeys sameValues
  cases left
  cases right
  cases same
  rfl

theorem keys_overlay (lower upper : NamedInserts) :
    (lower.overlay upper).keys = lower.keys ++ upper.keys.filter (· ∉ lower.keys) :=
  Keyed.keys_overlay lower.entries upper.entries upper.distinct

theorem mem_keys_iff (key : String) (inserts : NamedInserts) :
    key ∈ inserts.keys ↔ ∃ value, inserts.get? key = some value :=
  Keyed.mem_keys_iff key inserts.entries

/-- The keys that the upper sets add are those that no set below them has. -/
theorem keys_overlay_overlay (lower middle upper : NamedInserts) :
    ((lower.overlay middle).overlay upper).keys = (lower.overlay (middle.overlay upper)).keys := by
  simp only [keys_overlay, List.filter_append, List.filter_filter, List.append_assoc]
  congr 2
  apply List.filter_congr
  intro key _
  by_cases below : key ∈ lower.keys <;> simp [below]

theorem overlay_assoc (lower middle upper : NamedInserts) :
    (lower.overlay middle).overlay upper = lower.overlay (middle.overlay upper) := by
  apply ext_keys (keys_overlay_overlay lower middle upper)
  intro key
  simp only [get?_overlay, Option.or_assoc]

theorem empty_overlay (upper : NamedInserts) : empty.overlay upper = upper := by
  apply ext_keys
  · have noKeys : empty.keys = [] := rfl
    rw [keys_overlay, noKeys]
    simp
  · intro key
    rw [get?_overlay]
    exact Option.or_none

theorem overlay_empty (lower : NamedInserts) : lower.overlay empty = lower := rfl

/-- Writing over a set what it holds already. -/
theorem overlay_of_held
    (held : ∀ key value, upper.get? key = some value → lower.get? key = some value) :
    lower.overlay upper = lower := by
  apply ext_keys
  · have nothingNew : upper.keys.filter (· ∉ lower.keys) = [] := by
      rw [List.filter_eq_nil_iff]
      intro key member
      obtain ⟨value, found⟩ := (mem_keys_iff key upper).mp member
      simpa using (mem_keys_iff key lower).mpr ⟨value, held key value found⟩
    rw [keys_overlay, nothingNew, List.append_nil]
  · intro key
    rw [get?_overlay]
    cases found : upper.get? key with
    | none => rfl
    | some value => rw [held key value found, Option.some_or]

theorem overlay_self (inserts : NamedInserts) : inserts.overlay inserts = inserts :=
  overlay_of_held fun _ _ found => found

theorem overlay_twice (lower upper : NamedInserts) :
    (lower.overlay upper).overlay upper = lower.overlay upper := by
  apply overlay_of_held
  intro key value found
  rw [get?_overlay, found, Option.some_or]

/-- Insert sets under overlaying form a monoid in which what is written again is absorbed: the keys
keep the order of the lower set, new ones follow in the order of the upper one, and the upper values
count. -/
theorem overlay_ordered_monoid (lower middle upper : NamedInserts) :
    (lower.overlay middle).overlay upper = lower.overlay (middle.overlay upper) ∧
      empty.overlay lower = lower ∧ lower.overlay empty = lower ∧ lower.overlay lower = lower ∧
      (lower.overlay upper).overlay upper = lower.overlay upper ∧
      (lower.overlay upper).keys = lower.keys ++ upper.keys.filter (· ∉ lower.keys) ∧
      ∀ key, (lower.overlay upper).get? key = (upper.get? key).or (lower.get? key) :=
  ⟨overlay_assoc lower middle upper, empty_overlay lower, overlay_empty lower, overlay_self lower,
    overlay_twice lower upper, keys_overlay lower upper, fun key => get?_overlay key lower upper⟩

end MessageCatalog.NamedInserts
