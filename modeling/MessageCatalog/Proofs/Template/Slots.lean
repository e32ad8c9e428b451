import MessageCatalog.Proofs.Template.Expansion
import Mathlib.Data.List.Basic

/-!
The slots of a text and what becomes of them. A pass takes out the slots with the name of its key
and brings in those of its value, so whatever slots a filled text still has come from the template
or from a value. Where no slot has the name of a key, the passes leave the text alone; and when no
value has such slots either, filling a text again changes nothing. A single rule that neither the
template nor the values before it mention finds nothing to do, whatever the other rules are.
-/

namespace MessageCatalog.Template

open Text

namespace Segment

def name? : Segment → Option (List Char)
  | plain _ => none
  | slot name => some name

theorem name?_eq_some_iff {segment : Segment} {name : List Char} :
    segment.name? = some name ↔ segment = .slot name := by
  cases segment with
  | plain c => simp [name?]
  | slot other => simp [name?]

end Segment

/-- The names of the slots of a text, in their order. -/
def slotNames (text : List Char) : List (List Char) := (segments text).filterMap Segment.name?

/-- Some slot of the text has this name but for case. -/
def Mentions (text key : List Char) : Prop := ∃ name ∈ slotNames text, SameText key name

instance (text key : List Char) : Decidable (Mentions text key) :=
  inferInstanceAs (Decidable (∃ name ∈ slotNames text, SameText key name))

theorem mem_slotNames_iff {text name : List Char} :
    name ∈ slotNames text ↔ Segment.slot name ∈ segments text := by
  simp [slotNames, List.mem_filterMap, Segment.name?_eq_some_iff]

theorem mentions_iff {text key : List Char} :
    Mentions text key ↔ ∃ name, Segment.slot name ∈ segments text ∧ SameText key name := by
  simp only [Mentions, mem_slotNames_iff]

section Pass

variable {rule : Rule} {text : List Char}

/-- Each segment stays what it is in a pass for a name that no slot has. -/
theorem flatMap_pass_of_not_mentions (absent : ¬ Mentions text rule.key) :
    (segments text).flatMap (Segment.pass rule) = segments text := by
  have kept : ∀ segment ∈ segments text, segment.pass rule = [segment] := by
    intro segment member
    cases segment with
    | plain c => rfl
    | slot name =>
        apply Segment.pass_of_differs
        intro same
        exact absent (mentions_iff.mpr ⟨name, member, same⟩)
  rw [List.flatMap_congr kept]
  exact List.flatMap_singleton' _

theorem replaceAll_of_not_mentions (keyFree : BraceFree rule.key)
    (absent : ¬ Mentions text rule.key) :
    replaceAll rule.key rule.value text = text := by
  rw [replaceAll_eq_join keyFree, flatMap_pass_of_not_mentions absent, join_segments]

theorem segments_replaceAll (clean : rule.Clean) (flat : Flat text) :
    segments (replaceAll rule.key rule.value text) =
      (segments text).flatMap (Segment.pass rule) := by
  have rowClean := clean_pass rule clean.value (segments text) ((flat_iff text).mp flat)
  rw [replaceAll_eq_join clean.key, segments_join _ rowClean]

theorem flat_replaceAll (clean : rule.Clean) (flat : Flat text) :
    Flat (replaceAll rule.key rule.value text) := by
  rw [flat_iff, segments_replaceAll clean flat]
  exact clean_pass rule clean.value (segments text) ((flat_iff text).mp flat)

/-- Behind a pass there are the slots it left in place and, where it found one, those of its
value. -/
theorem mem_slotNames_replaceAll (clean : rule.Clean) (flat : Flat text) {name : List Char} :
    name ∈ slotNames (replaceAll rule.key rule.value text) ↔
      name ∈ slotNames text ∧ ¬ SameText rule.key name ∨
        Mentions text rule.key ∧ name ∈ slotNames rule.value := by
  rw [mem_slotNames_iff, segments_replaceAll clean flat, List.mem_flatMap, mentions_iff,
    mem_slotNames_iff, mem_slotNames_iff]
  constructor
  · rintro ⟨segment, member, made⟩
    cases segment with
    | plain c => simp [Segment.pass] at made
    | slot source =>
        by_cases same : SameText rule.key source
        · rw [Segment.pass_of_same same] at made
          exact Or.inr ⟨⟨source, member, same⟩, made⟩
        · rw [Segment.pass_of_differs same, List.mem_singleton] at made
          cases made
          exact Or.inl ⟨member, same⟩
  · rintro (⟨member, differs⟩ | ⟨⟨source, member, same⟩, made⟩)
    · refine ⟨.slot name, member, ?_⟩
      rw [Segment.pass_of_differs differs]
      exact List.mem_singleton_self _
    · refine ⟨.slot source, member, ?_⟩
      rw [Segment.pass_of_same same]
      exact made

end Pass

section Run

variable {rules : Substitution} {text : List Char}

theorem flat_apply (clean : CleanRules rules) (flat : Flat text) :
    Flat (Substitution.apply rules text) := by
  induction rules generalizing text with
  | nil => exact flat
  | cons rule later induction =>
      have step := flat_replaceAll (clean rule (by simp)) flat
      exact induction (fun other member => clean other (by simp [member])) step

/-- A slot of a filled text either stood in the text already, and then no rule has its name, or came
with a value. -/
theorem slot_origin (clean : CleanRules rules) (flat : Flat text) {name : List Char}
    (member : name ∈ slotNames (Substitution.apply rules text)) :
    (name ∈ slotNames text ∧ ∀ rule ∈ rules, ¬ SameText rule.key name) ∨
      ∃ rule ∈ rules, name ∈ slotNames rule.value := by
  -- The rules behind the first one meet a text that already holds the slots of its value.
  induction rules generalizing text with
  | nil => exact Or.inl ⟨member, by simp⟩
  | cons rule later induction =>
      have first := clean rule (by simp)
      have laterClean : CleanRules later := fun other inside => clean other (by simp [inside])
      rcases induction laterClean (flat_replaceAll first flat) member with
          ⟨left, passed⟩ | ⟨other, inside, brought⟩
      · rcases (mem_slotNames_replaceAll first flat).mp left with ⟨stood, differs⟩ | ⟨_, brought⟩
        · refine Or.inl ⟨stood, ?_⟩
          intro other inside
          rcases List.mem_cons.mp inside with rfl | behind
          · exact differs
          · exact passed other behind
        · exact Or.inr ⟨rule, by simp, brought⟩
      · exact Or.inr ⟨other, by simp [inside], brought⟩

/-- Values without slots for a key leave none in the text. -/
theorem not_mentions_apply (clean : CleanRules rules) (flat : Flat text)
    (closed : ∀ rule ∈ rules, ∀ other ∈ rules, ¬ Mentions rule.value other.key) :
    ∀ rule ∈ rules, ¬ Mentions (Substitution.apply rules text) rule.key := by
  rintro rule inside ⟨name, member, same⟩
  rcases slot_origin clean flat member with ⟨_, differs⟩ | ⟨source, fromSource, brought⟩
  · exact differs rule inside same
  · exact closed source fromSource rule inside ⟨name, brought, same⟩

/-- No slot for a name comes up where neither the text nor a value has one. -/
theorem not_mentions_apply_of_foreign (clean : CleanRules rules) (flat : Flat text)
    {key : List Char} (unmentioned : ¬ Mentions text key)
    (foreign : ∀ rule ∈ rules, ¬ Mentions rule.value key) :
    ¬ Mentions (Substitution.apply rules text) key := by
  rintro ⟨name, member, same⟩
  rcases slot_origin clean flat member with ⟨stood, _⟩ | ⟨source, fromSource, brought⟩
  · exact unmentioned ⟨name, stood, same⟩
  · exact foreign source fromSource ⟨name, brought, same⟩

/-- The passes in front of a rule decide whether it finds anything; those behind it do not
matter. -/
theorem apply_without_unmentioned {rule : Rule} (later : Substitution) (clean : CleanRules rules)
    (keyFree : BraceFree rule.key) (flat : Flat text) (unmentioned : ¬ Mentions text rule.key)
    (foreign : ∀ other ∈ rules, ¬ Mentions other.value rule.key) :
    Substitution.apply (rules ++ rule :: later) text =
      Substitution.apply (rules ++ later) text := by
  have nothingThere := not_mentions_apply_of_foreign clean flat unmentioned foreign
  calc Substitution.apply (rules ++ rule :: later) text
      = Substitution.apply later (replaceAll rule.key rule.value (Substitution.apply rules text)) :=
        Substitution.apply_append rules (rule :: later) text
    _ = Substitution.apply later (Substitution.apply rules text) := by
        rw [replaceAll_of_not_mentions keyFree nothingThere]
    _ = Substitution.apply (rules ++ later) text :=
        (Substitution.apply_append rules later text).symm

end Run

section Compiled

variable [KeySize]

/-- When no value has a slot for any of the keys, then no such slot is left, and filling the text a
second time changes nothing. -/
theorem render_idempotent (template : String) (named : NamedInserts)
    (positional : PositionalInserts) (substitution : Substitution)
    (templateFlat : Flat template.toList) (insertsFlat : FlatInserts named positional)
    (closed : ∀ rule ∈ rulesOf named positional, ∀ other ∈ rulesOf named positional,
      ¬ Mentions rule.value other.key)
    (compiled : Substitution.ofInserts named positional = .ok substitution) :
    substitution.render (substitution.render template) = substitution.render template ∧
      Flat (substitution.render template).toList ∧
        ∀ rule ∈ rulesOf named positional,
          ¬ Mentions (substitution.render template).toList rule.key := by
  obtain rfl := rules_of_ofInserts compiled
  have clean := insertsFlat.clean_rules
  have filled : (Substitution.render (rulesOf named positional) template).toList =
      Substitution.apply (rulesOf named positional) template.toList := String.toList_ofList
  have nothingLeft := not_mentions_apply clean templateFlat closed
  have again := apply_of_unchanged fun rule member =>
    replaceAll_of_not_mentions (clean rule member).key (nothingLeft rule member)
  rw [← filled] at nothingLeft again
  refine ⟨?_, ?_, nothingLeft⟩
  · rw [Substitution.render, again, String.ofList_toList]
  · rw [filled]
    exact flat_apply clean templateFlat

/-- An insert without a slot, in the template or in a value that is put in before its own pass,
might as well not be there. What the inserts behind it look like is of no matter. -/
theorem render_without_unmentioned (template : String) (before later : Substitution) (rule : Rule)
    (templateFlat : Flat template.toList) (beforeClean : CleanRules before)
    (keyFree : BraceFree rule.key) (unmentioned : ¬ Mentions template.toList rule.key)
    (foreign : ∀ other ∈ before, ¬ Mentions other.value rule.key) :
    Substitution.render (before ++ rule :: later) template =
        Substitution.render (before ++ later) template ∧
      ∀ (named : NamedInserts) (positional : PositionalInserts),
        Substitution.ofInserts named positional = .ok (before ++ rule :: later) →
          applyInserts template named positional =
            .ok (Substitution.render (before ++ later) template) := by
  have sameResult : Substitution.render (before ++ rule :: later) template =
      Substitution.render (before ++ later) template := by
    apply congrArg String.ofList
    exact apply_without_unmentioned later beforeClean keyFree templateFlat unmentioned foreign
  refine ⟨sameResult, ?_⟩
  intro named positional compiled
  rw [applyInserts_of_ofInserts template compiled, sameResult]

end Compiled

/-- A template that is not flat can form a slot around a value. -/
example : Substitution.render [⟨"a".toList, "a".toList⟩] "\x7b{a}\x7d" = "{a}" ∧
    Substitution.render [⟨"a".toList, "a".toList⟩] "{a}" = "a" :=
  ⟨by cbv, by cbv⟩

/-- Slots of the values stay when they are for other names. -/
theorem render_idempotent_foreign_slots :
    ∃ substitution,
      Substitution.ofInserts (.ofPairs [("a", .text "{q}"), ("b", .text "")])
          [.text "p{z}"] = .ok substitution ∧
        substitution.render (substitution.render "{0}{x}{B}{A}") =
            substitution.render "{0}{x}{B}{A}" ∧
          substitution.render "{0}{x}{B}{A}" = "p{z}{x}{q}" := by
  have compiled : Substitution.ofInserts (.ofPairs [("a", .text "{q}"), ("b", .text "")])
      [.text "p{z}"] = .ok [⟨"0".toList, "p{z}".toList⟩, ⟨"a".toList, "{q}".toList⟩,
        ⟨"b".toList, "".toList⟩] := rfl
  have flat : FlatInserts (.ofPairs [("a", .text "{q}"), ("b", .text "")]) [.text "p{z}"] :=
    ⟨by decide +kernel, by decide +kernel, by decide +kernel⟩
  have filled := render_idempotent "{0}{x}{B}{A}" _ _ _ (by decide +kernel) flat
    (by decide +kernel) compiled
  exact ⟨_, compiled, filled.1, by cbv⟩

/-- The insert `B` is dropped between values with slots of their own, though its value and what
stands behind it have braces anywhere. -/
theorem render_without_unmentioned_between :
    applyInserts "{0} {c}"
      (.ofPairs [("B", .text "\x7bc"), ("c", .text "{b}"), ("x\x7d", .text "\x7b")])
        [.text "{c}!"] = .ok (Substitution.render
          [⟨"0".toList, "{c}!".toList⟩, ⟨"c".toList, "{b}".toList⟩, ⟨"x\x7d".toList, "\x7b".toList⟩]
          "{0} {c}") ∧
      Substitution.render
          [⟨"0".toList, "{c}!".toList⟩, ⟨"c".toList, "{b}".toList⟩, ⟨"x\x7d".toList, "\x7b".toList⟩]
          "{0} {c}" = "{b}! {b}" := by
  have clean : CleanRules [⟨"0".toList, "{c}!".toList⟩] := by
    intro rule member
    rw [List.mem_singleton.mp member]
    exact ⟨by decide +kernel, by decide +kernel⟩
  have dropped := render_without_unmentioned "{0} {c}" [⟨"0".toList, "{c}!".toList⟩]
    [⟨"c".toList, "{b}".toList⟩, ⟨"x\x7d".toList, "\x7b".toList⟩] ⟨"B".toList, "\x7bc".toList⟩
    (by decide +kernel) clean (by decide +kernel) (by decide +kernel) (by decide +kernel)
  exact ⟨dropped.2 _ _ rfl, by cbv⟩

end MessageCatalog.Template
