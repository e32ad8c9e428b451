import MessageCatalog.Template.Substitution

/-!
Which inserts make a substitution. The inserts are compiled one after the other, the positional ones
first; the first one with a key that does not fit decides the failure, and without such a key there
is one rule for each insert.
-/

namespace MessageCatalog.Template

open Text

/-- An insert with the key it has in templates and the place to blame when that key does not fit. -/
structure Placed where
  place : InsertPlace
  key : List Char
  value : Insert

def placedInserts (named : NamedInserts) (positional : PositionalInserts) : List Placed :=
  positional.mapIdx (fun index value => ⟨.index index, (natText index).toList, value⟩) ++
    named.entries.map fun entry => ⟨.key entry.1, entry.1.toList, entry.2⟩

def Placed.rule (insert : Placed) : Rule := ⟨insert.key, insert.value.plainText.toList⟩

variable [KeySize]

namespace Placed

def oversized (insert : Placed) : Bool := !KeySize.fits insert.key

def compile (insert : Placed) : Except InsertError Rule :=
  Substitution.ruleAt insert.place insert.key insert.value

theorem mapM_compile (inserts : List Placed) : inserts.mapM compile =
    match inserts.find? oversized with
    | some insert => .error (.unsupported insert.place .patternTooLarge)
    | none => .ok (inserts.map rule) := by
  induction inserts with
  | nil => rfl
  | cons insert inserts induction =>
      rw [List.mapM_cons, induction]
      by_cases fits : KeySize.fits insert.key = true
      · have compiled : compile insert = .ok insert.rule := by
          simp [compile, Substitution.ruleAt, fits, rule]
        have passed : ¬ oversized insert = true := by simp [oversized, fits]
        rw [compiled, List.find?_cons_of_neg passed]
        cases inserts.find? oversized with
        | none => rfl
        | some other => rfl
      · have refused : compile insert = .error (.unsupported insert.place .patternTooLarge) := by
          simp [compile, Substitution.ruleAt, fits]
        have first : oversized insert = true := by simpa [oversized] using fits
        rw [refused, List.find?_cons_of_pos first]
        rfl

end Placed

theorem positional_rules_eq (start : Nat) (positional : PositionalInserts) :
    Substitution.positionalRules start positional =
      (positional.mapIdx fun index value =>
        (⟨.index (start + index), (natText (start + index)).toList, value⟩ : Placed)).mapM
          Placed.compile := by
  induction positional generalizing start with
  | nil => rfl
  | cons value rest induction =>
      rw [List.mapIdx_cons, List.mapM_cons, Substitution.positionalRules, induction]
      simp only [Nat.add_zero, Nat.add_assoc, Nat.add_comm 1]
      rfl

/-- The place of the first insert whose key does not fit. -/
def oversized? (named : NamedInserts) (positional : PositionalInserts) : Option InsertPlace :=
  ((placedInserts named positional).find? Placed.oversized).map Placed.place

/-- The positional inserts have the texts of their indices as keys. -/
theorem oversized?_eq_none_iff (named : NamedInserts) (positional : PositionalInserts) :
    oversized? named positional = none ↔
      (∀ index < positional.length, KeySize.fits (natText index).toList = true) ∧
        ∀ key ∈ named.keys, KeySize.fits key.toList = true := by
  rw [oversized?, Option.map_eq_none_iff, List.find?_eq_none, placedInserts, List.forall_mem_append]
  apply and_congr
  · simp only [List.mem_mapIdx, Placed.oversized, Bool.not_eq_true', Bool.not_eq_false]
    constructor
    · intro fits index bound
      exact fits _ ⟨index, bound, rfl⟩
    · intro fits insert member
      obtain ⟨index, bound, rfl⟩ := member
      exact fits index bound
  · simp only [NamedInserts.keys, Keyed.keys, List.forall_mem_map, Placed.oversized,
      Bool.not_eq_true', Bool.not_eq_false]

theorem ofInserts_eq (named : NamedInserts) (positional : PositionalInserts) :
    Substitution.ofInserts named positional =
      match oversized? named positional with
      | some place => .error (.unsupported place .patternTooLarge)
      | none => .ok ((placedInserts named positional).map Placed.rule) := by
  have compiled : Substitution.ofInserts named positional =
      (placedInserts named positional).mapM Placed.compile := by
    rw [Substitution.ofInserts, positional_rules_eq, placedInserts, List.mapM_append, List.mapM_map]
    simp only [Nat.zero_add]
    rfl
  rw [compiled, Placed.mapM_compile, oversized?]
  cases (placedInserts named positional).find? Placed.oversized <;> rfl

end MessageCatalog.Template
