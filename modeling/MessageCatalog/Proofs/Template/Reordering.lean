import MessageCatalog.Proofs.Template.Slots
import Mathlib.Data.List.Perm.Basic

/-!
Named inserts in another order. Two passes can change places when their keys are different names and
neither value has a slot for the other key. The first insert is moved over those that the new order
puts before it, one place at a time, so inserts that keep their order may depend on each other.
-/

namespace MessageCatalog.Template

open Text

/-- Neither rule takes a slot that the other takes or brings in. -/
structure Rule.Independent (left right : Rule) : Prop where
  keysApart : ¬ SameText left.key right.key
  leftForeign : ¬ Mentions left.value right.key
  rightForeign : ¬ Mentions right.value left.key

theorem Rule.independent_iff (left right : Rule) : left.Independent right ↔
    ¬ SameText left.key right.key ∧ ¬ Mentions left.value right.key ∧
      ¬ Mentions right.value left.key :=
  ⟨fun independent => ⟨independent.keysApart, independent.leftForeign, independent.rightForeign⟩,
    fun ⟨keysApart, leftForeign, rightForeign⟩ => ⟨keysApart, leftForeign, rightForeign⟩⟩

instance (left right : Rule) : Decidable (left.Independent right) :=
  decidable_of_iff _ (left.independent_iff right).symm

namespace Segment

variable {left right : Rule}

/-- A slot that the first of two passes takes is settled by it alone, whichever comes first. -/
theorem pass_pass_of_taken (apart : ¬ SameText left.key right.key)
    (foreign : ¬ Mentions left.value right.key) {name : List Char}
    (taken : SameText left.key name) :
    ((slot name).pass left).flatMap (pass right) = segments left.value ∧
      ((slot name).pass right).flatMap (pass left) = segments left.value := by
  have notRight : ¬ SameText right.key name := fun same => apart (taken.trans same.symm)
  constructor
  · rw [pass_of_same taken]
    exact flatMap_pass_of_not_mentions foreign
  · rw [pass_of_differs notRight, List.flatMap_singleton, pass_of_same taken]

theorem pass_comm (independent : left.Independent right) (segment : Segment) :
    (segment.pass left).flatMap (pass right) = (segment.pass right).flatMap (pass left) := by
  cases segment with
  | plain c => rfl
  | slot name =>
      by_cases takenLeft : SameText left.key name
      · have settled := pass_pass_of_taken independent.keysApart independent.leftForeign takenLeft
        rw [settled.1, settled.2]
      by_cases takenRight : SameText right.key name
      · have apart : ¬ SameText right.key left.key := fun same => independent.keysApart same.symm
        have settled := pass_pass_of_taken apart independent.rightForeign takenRight
        rw [settled.1, settled.2]
      rw [pass_of_differs takenLeft, pass_of_differs takenRight, List.flatMap_singleton,
        List.flatMap_singleton, pass_of_differs takenLeft, pass_of_differs takenRight]

end Segment

section Run

variable {text : List Char}

theorem replaceAll_comm {left right : Rule} (independent : left.Independent right)
    (leftClean : left.Clean) (rightClean : right.Clean) (flat : Flat text) :
    replaceAll right.key right.value (replaceAll left.key left.value text) =
      replaceAll left.key left.value (replaceAll right.key right.value text) := by
  have leftFirst := segments_replaceAll leftClean flat
  have rightFirst := segments_replaceAll rightClean flat
  rw [replaceAll_eq_join rightClean.key,
    replaceAll_eq_join leftClean.key (replaceAll right.key right.value text), leftFirst, rightFirst,
    List.flatMap_assoc, List.flatMap_assoc]
  congr 1
  apply List.flatMap_congr
  intro segment _
  exact segment.pass_comm independent

/-- A rule can be applied before or after all rules that it is independent of. -/
theorem apply_move {rule : Rule} {before : Substitution} (clean : rule.Clean)
    (beforeClean : CleanRules before) (independent : ∀ other ∈ before, rule.Independent other)
    (flat : Flat text) :
    Substitution.apply before (replaceAll rule.key rule.value text) =
      replaceAll rule.key rule.value (Substitution.apply before text) := by
  induction before generalizing text with
  | nil => rfl
  | cons other before induction =>
      have otherClean := beforeClean other (by simp)
      have swapped := replaceAll_comm (independent other (by simp)) clean otherClean flat
      have onward := induction (fun rest member => beforeClean rest (by simp [member]))
        (fun rest member => independent rest (by simp [member])) (flat_replaceAll otherClean flat)
      calc Substitution.apply (other :: before) (replaceAll rule.key rule.value text)
          = Substitution.apply before
            (replaceAll other.key other.value (replaceAll rule.key rule.value text)) := rfl
        _ = Substitution.apply before
            (replaceAll rule.key rule.value (replaceAll other.key other.value text)) := by
            rw [swapped]
        _ = replaceAll rule.key rule.value (Substitution.apply (other :: before) text) := onward

/-- In the other order the first rule stands behind rules that it is independent of. Moved over them
it leaves two shorter orders of the same rules. -/
theorem apply_reordered {rules reordered : Substitution} (rearranged : rules.Perm reordered)
    (clean : CleanRules rules)
    (independent : ∀ left right, [left, right].Sublist rules → [right, left].Sublist reordered →
      left.Independent right) (flat : Flat text) :
    Substitution.apply rules text = Substitution.apply reordered text := by
  -- Neighbours swapped at random would not do, as they may depend on each other: only the pairs
  -- that the two orders disagree about are independent.
  induction rules generalizing reordered text with
  | nil => rw [List.nil_perm.mp rearranged]
  | cons rule later induction =>
      obtain ⟨before, behind, rfl⟩ := List.append_of_mem (rearranged.mem_iff.mp List.mem_cons_self)
      have rest : later.Perm (before ++ behind) :=
        (List.perm_cons rule).mp (rearranged.trans List.perm_middle)
      have first := clean rule (by simp)
      have laterClean : CleanRules later := fun other member => clean other (by simp [member])
      have beforeClean : CleanRules before := by
        intro other member
        exact laterClean other (rest.mem_iff.mpr (by simp [member]))
      have passed : ∀ other ∈ before, rule.Independent other := by
        intro other member
        apply independent
        · have inside : other ∈ later := rest.mem_iff.mpr (by simp [member])
          simpa using inside
        · exact (List.singleton_sublist.mpr member).append
            (List.singleton_sublist.mpr List.mem_cons_self)
      have restIndependent : ∀ left right, [left, right].Sublist later →
          [right, left].Sublist (before ++ behind) → left.Independent right := by
        intro left right kept turned
        apply independent left right (kept.cons rule)
        exact turned.trans ((List.Sublist.refl before).append (List.sublist_cons_self rule behind))
      have onward := induction rest laterClean restIndependent (flat_replaceAll first flat)
      calc Substitution.apply (rule :: later) text
          = Substitution.apply later (replaceAll rule.key rule.value text) := rfl
        _ = Substitution.apply (before ++ behind) (replaceAll rule.key rule.value text) := onward
        _ = Substitution.apply behind
            (Substitution.apply before (replaceAll rule.key rule.value text)) :=
            Substitution.apply_append before behind _
        _ = Substitution.apply behind
            (replaceAll rule.key rule.value (Substitution.apply before text)) := by
            rw [apply_move first beforeClean passed flat]
        _ = Substitution.apply (before ++ rule :: behind) text :=
            (Substitution.apply_append before (rule :: behind) text).symm

end Run

/-- One key stands before the other in the first set and behind it in the second. -/
def Swapped (named reordered : NamedInserts) (first second : String) : Prop :=
  [first, second].Sublist named.keys ∧ [second, first].Sublist reordered.keys

instance (named reordered : NamedInserts) (first second : String) :
    Decidable (Swapped named reordered first second) :=
  inferInstanceAs (Decidable (_ ∧ _))

def ruleOf (entry : String × Insert) : Rule := ⟨entry.1.toList, entry.2.plainText.toList⟩

theorem keys_of_rules (named : NamedInserts) :
    (named.entries.map ruleOf).map Rule.key = named.keys.map String.toList := by
  rw [NamedInserts.keys, Keyed.keys, List.map_map, List.map_map]
  rfl

theorem swapped_of_rules {named reordered : NamedInserts} {first second : String × Insert}
    (kept : [first, second].Sublist named.entries)
    (turned : [ruleOf second, ruleOf first].Sublist (reordered.entries.map ruleOf)) :
    Swapped named reordered first.1 second.1 := by
  constructor
  · exact kept.map Prod.fst
  · have keys := turned.map Rule.key
    rw [keys_of_rules] at keys
    obtain ⟨pair, inside, same⟩ := List.sublist_map_iff.mp keys
    have pairKeys : [second.1, first.1] = pair :=
      List.map_injective_iff.mpr (fun _ _ => String.toList_inj.mp) same
    rw [pairKeys]
    exact inside

theorem independent_rules {named reordered : NamedInserts}
    (independent : ∀ first ∈ named.entries, ∀ second ∈ named.entries,
      Swapped named reordered first.1 second.1 → (ruleOf first).Independent (ruleOf second))
    {left right : Rule} (kept : [left, right].Sublist (named.entries.map ruleOf))
    (turned : [right, left].Sublist (reordered.entries.map ruleOf)) : left.Independent right := by
  obtain ⟨pair, inside, same⟩ := List.sublist_map_iff.mp kept
  rw [eq_comm, List.map_eq_cons_iff] at same
  obtain ⟨first, tail, rfl, rfl, sameTail⟩ := same
  obtain ⟨second, rfl, rfl⟩ := List.map_eq_singleton_iff.mp sameTail
  apply independent
  · exact inside.subset (by simp)
  · exact inside.subset (by simp)
  · exact swapped_of_rules inside turned

theorem rules_behind_indexed (named : NamedInserts) (positional : PositionalInserts) :
    rulesOf named positional = rulesOf .empty positional ++ named.entries.map ruleOf := by
  simp [rulesOf, ruleOf, NamedInserts.empty]

section Compiled

variable [KeySize]

theorem oversized?_reordered {named reordered : NamedInserts} {positional : PositionalInserts}
    (rearranged : named.entries.Perm reordered.entries)
    (fits : oversized? named positional = none) :
    oversized? reordered positional = none := by
  rw [oversized?_eq_none_iff] at fits ⊢
  have sameKeys : named.keys.Perm reordered.keys := rearranged.map Prod.fst
  exact ⟨fits.1, fun key member => fits.2 key (sameKeys.mem_iff.mpr member)⟩

/-- The order of named inserts matters only between inserts that are for the same slot but for case,
or one of which has a slot for the other in its value. -/
theorem apply_inserts_reordered (template : String) (named reordered : NamedInserts)
    (positional : PositionalInserts) (substitution : Substitution)
    (templateFlat : Flat template.toList) (insertsFlat : FlatInserts named positional)
    (rearranged : named.entries.Perm reordered.entries)
    (independent : ∀ first ∈ named.entries, ∀ second ∈ named.entries,
      Swapped named reordered first.1 second.1 → (ruleOf first).Independent (ruleOf second))
    (compiled : Substitution.ofInserts named positional = .ok substitution) :
    ∃ text, applyInserts template named positional = .ok text ∧
      applyInserts template reordered positional = .ok text := by
  obtain ⟨fits, rfl⟩ := ofInserts_ok_iff.mp compiled
  have reorderedCompiled := ofInserts_ok_iff.mpr ⟨oversized?_reordered rearranged fits, rfl⟩
  refine ⟨_, applyInserts_of_ofInserts template compiled, ?_⟩
  rw [applyInserts_of_ofInserts template reorderedCompiled]
  have clean := insertsFlat.clean_rules
  rw [rules_behind_indexed] at clean
  have indexedFlat : Flat (Substitution.apply (rulesOf .empty positional) template.toList) :=
    flat_apply (fun rule member => clean rule (by simp [member])) templateFlat
  have namedClean : CleanRules (named.entries.map ruleOf) :=
    fun rule member => clean rule (by simp [member])
  have sameResult := apply_reordered (rearranged.map ruleOf) namedClean
    (fun _ _ kept turned => independent_rules independent kept turned) indexedFlat
  rw [Substitution.render, Substitution.render, rules_behind_indexed named,
    rules_behind_indexed reordered, Substitution.apply_append, Substitution.apply_append,
    sameResult]

end Compiled

/-- Where a value has a slot for the other key, the order shows. -/
example : Substitution.render [⟨"b".toList, "{a}".toList⟩, ⟨"a".toList, "x".toList⟩] "{b}" = "x" ∧
    Substitution.render [⟨"a".toList, "x".toList⟩, ⟨"b".toList, "{a}".toList⟩] "{b}" = "{a}" :=
  ⟨by cbv, by cbv⟩

/-- The inserts that are exchanged are independent; the one that fills a slot of another's value
stays behind it. -/
theorem apply_inserts_reordered_around_chain :
    let named : NamedInserts := .ofPairs [("a", .text "{x}{y}"), ("x", .text "1"), ("b", .text "2")]
    let reordered : NamedInserts :=
      .ofPairs [("b", .text "2"), ("a", .text "{x}{y}"), ("x", .text "1")]
    ∃ text, applyInserts "{A} {b} {0}" named [.text "{X}"] = .ok text ∧
      applyInserts "{A} {b} {0}" reordered [.text "{X}"] = .ok text ∧ text = "1{y} 2 1" := by
  intro named reordered
  have compiled : Substitution.ofInserts named [.text "{X}"] = .ok [⟨"0".toList, "{X}".toList⟩,
      ⟨"a".toList, "{x}{y}".toList⟩, ⟨"x".toList, "1".toList⟩, ⟨"b".toList, "2".toList⟩] := rfl
  have flat : FlatInserts named [.text "{X}"] :=
    ⟨by decide +kernel, by decide +kernel, by decide +kernel⟩
  have rearranged : named.entries.Perm reordered.entries :=
    (List.perm_append_comm : (named.entries.take 2 ++ named.entries.drop 2).Perm _)
  obtain ⟨text, ordered, turned⟩ :=
    apply_inserts_reordered "{A} {b} {0}" named reordered [.text "{X}"] _ (by decide +kernel) flat
      rearranged (by decide +kernel) compiled
  have filled : Substitution.render [⟨"0".toList, "{X}".toList⟩, ⟨"a".toList, "{x}{y}".toList⟩,
      ⟨"x".toList, "1".toList⟩, ⟨"b".toList, "2".toList⟩] "{A} {b} {0}" = "1{y} 2 1" := by cbv
  have same := ordered.symm.trans (applyInserts_of_ofInserts "{A} {b} {0}" compiled)
  exact ⟨text, ordered, turned, (Except.ok.inj same).trans filled⟩

end MessageCatalog.Template
