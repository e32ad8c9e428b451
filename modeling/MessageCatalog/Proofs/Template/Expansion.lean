import MessageCatalog.Proofs.Template.Compilation
import MessageCatalog.Proofs.Template.Pass

/-!
Substitution as expansion. The passes of a substitution go over the whole text one after the other,
so each of them meets what the earlier ones have put in. On flat texts this is the same as expanding
every slot by itself: a slot stands for the value of the first rule with its name, and that value is
expanded in turn by the rules behind that one only.
-/

namespace MessageCatalog.Template

open Text

def expandWith (fill : List Char → List Char) (template : List Char) : List Char :=
  (segments template).flatMap fun segment =>
    match segment with
    | .plain c => [c]
    | .slot name => fill name

/-- What a slot stands for. Without a rule for its name it stands for itself. -/
def fillSlot : Substitution → List Char → List Char
  | [], name => braced name
  | rule :: later, name =>
      if sameText rule.key name then expandWith (fillSlot later) rule.value else fillSlot later name

def expand (rules : Substitution) (template : List Char) : List Char :=
  expandWith (fillSlot rules) template

/-- Rules for other names are passed over. -/
theorem fill_slot_append (before later : Substitution) (name : List Char)
    (passed : ∀ other ∈ before, ¬ SameText other.key name) :
    fillSlot (before ++ later) name = fillSlot later name := by
  induction before with
  | nil => rfl
  | cons other before induction =>
      have differs : ¬ sameText other.key name = true := by
        rw [sameText_iff]
        exact passed other (by simp)
      rw [List.cons_append, fillSlot, if_neg differs]
      exact induction (fun rest member => passed rest (by simp [member]))

theorem fill_slot_of_first (before later : Substitution) (rule : Rule) (name : List Char)
    (passed : ∀ other ∈ before, ¬ SameText other.key name) (matching : SameText rule.key name) :
    fillSlot (before ++ rule :: later) name = expand later rule.value := by
  have same : sameText rule.key name = true := (sameText_iff rule.key name).mpr matching
  rw [fill_slot_append before (rule :: later) name passed, fillSlot, if_pos same, expand]

theorem fill_slot_of_no_rule (rules : Substitution) (name : List Char)
    (foreign : ∀ rule ∈ rules, ¬ SameText rule.key name) : fillSlot rules name = braced name := by
  have passed := fill_slot_append rules [] name foreign
  rwa [List.append_nil, fillSlot] at passed

namespace Segment

def expand (rules : Substitution) : Segment → List Char
  | plain c => [c]
  | slot name => fillSlot rules name

end Segment

theorem expand_eq_flatMap (rules : Substitution) (template : List Char) :
    expand rules template = (segments template).flatMap (Segment.expand rules) := by
  rw [expand, expandWith]
  congr 1

/-- Expanding a slot by all rules is one pass of the first and expansion by the others. -/
theorem expand_pass (rule : Rule) (later : Substitution) (segment : Segment) :
    (segment.pass rule).flatMap (Segment.expand later) = segment.expand (rule :: later) := by
  cases segment with
  | plain c => simp [Segment.pass, Segment.expand]
  | slot name =>
      by_cases same : sameText rule.key name
      · simp only [Segment.pass, same, if_true, Segment.expand, fillSlot]
        exact (expand_eq_flatMap later rule.value).symm
      · simp [Segment.pass, same, Segment.expand, fillSlot]

theorem segments_of_braceFree {text : List Char} (free : BraceFree text) :
    segments text = text.map .plain := by
  induction text with
  | nil => rfl
  | cons c rest induction =>
      have parts := braceFree_cons.mp free
      rw [segments_plain c rest parts.1, induction parts.2, List.map_cons]

theorem flat_of_braceFree {text : List Char} (free : BraceFree text) : Flat text := by
  rw [flat_iff, segments_of_braceFree free]
  intro segment member
  obtain ⟨c, inside, rfl⟩ := List.mem_map.mp member
  exact free c inside

theorem expandWith_of_braceFree (fill : List Char → List Char) {text : List Char}
    (free : BraceFree text) : expandWith fill text = text := by
  rw [expandWith, segments_of_braceFree free, List.flatMap_map]
  exact List.flatMap_singleton' text

/-- Values without braces are put in as they stand, so that only the first rule with the name
counts. -/
theorem fill_slot_of_braceFree (rules : Substitution) (free : ∀ rule ∈ rules, BraceFree rule.value)
    (name : List Char) :
    fillSlot rules name =
      ((rules.find? fun rule => sameText rule.key name).map Rule.value).getD (braced name) := by
  cases found : rules.find? fun rule => sameText rule.key name with
  | none =>
      apply fill_slot_of_no_rule
      intro rule member same
      exact List.find?_eq_none.mp found rule member ((sameText_iff rule.key name).mpr same)
  | some rule =>
      have chosen := List.find?_eq_some_iff_append.mp found
      have matching : SameText rule.key name := (sameText_iff rule.key name).mp chosen.1
      obtain ⟨before, later, shape, differing⟩ := chosen.2
      have passed : ∀ other ∈ before, ¬ SameText other.key name := by
        intro other member same
        simpa [(sameText_iff other.key name).mpr same] using differing other member
      calc fillSlot rules name
          = fillSlot (before ++ rule :: later) name := by rw [shape]
        _ = expand later rule.value := fill_slot_of_first before later rule name passed matching
        _ = rule.value := expandWith_of_braceFree _ (free rule (by simp [shape]))

/-- Rules under which flat texts stay flat. -/
structure Rule.Clean (rule : Rule) : Prop where
  key : BraceFree rule.key
  value : Flat rule.value

abbrev CleanRules (rules : Substitution) : Prop := ∀ rule ∈ rules, rule.Clean

theorem apply_join (rules : Substitution) (clean : CleanRules rules) (row : List Segment)
    (rowClean : AllClean row) :
    Substitution.apply rules (join row) = row.flatMap (Segment.expand rules) := by
  induction rules generalizing row with
  | nil =>
      rw [Substitution.apply, List.foldl_nil, join]
      congr 1
  | cons rule later induction =>
      obtain ⟨keyFree, valueFlat⟩ := clean rule (by simp)
      have passed := clean_pass rule valueFlat row rowClean
      calc Substitution.apply (rule :: later) (join row)
          = Substitution.apply later (replaceAll rule.key rule.value (join row)) := rfl
        _ = Substitution.apply later (join (row.flatMap (Segment.pass rule))) := by
            rw [replaceAll_join rule keyFree row rowClean]
        _ = (row.flatMap (Segment.pass rule)).flatMap (Segment.expand later) :=
            induction (fun rest member => clean rest (by simp [member])) _ passed
        _ = row.flatMap (Segment.expand (rule :: later)) := by
            rw [List.flatMap_assoc]
            simp only [expand_pass]

theorem apply_of_flat (rules : Substitution) (clean : CleanRules rules) (template : List Char)
    (flat : Flat template) : Substitution.apply rules template = expand rules template := by
  have whole := apply_join rules clean (segments template) ((flat_iff template).mp flat)
  rw [join_segments] at whole
  rw [whole, expand_eq_flatMap]

theorem flat_braced {name : List Char} (free : BraceFree name) : Flat (braced name) := by
  refine ⟨[.slot name], ?_, by simp [join, Segment.text]⟩
  intro segment member
  rw [List.mem_singleton.mp member]
  exact free

theorem expand_braced (rules : Substitution) {name : List Char} (free : BraceFree name) :
    expand rules (braced name) = fillSlot rules name := by
  have row : segments (braced name) = [.slot name] := by
    simpa [segments, segmentsFrom] using segments_slot name [] free
  simp [expand_eq_flatMap, row, Segment.expand]

/-- The rules of inserts: the positional ones under the decimal text of their index, then the named
ones in their order. -/
def rulesOf (named : NamedInserts) (positional : PositionalInserts) : Substitution :=
  positional.mapIdx (fun index value => ⟨(natText index).toList, value.plainText.toList⟩) ++
    named.entries.map fun entry => ⟨entry.1.toList, entry.2.plainText.toList⟩

structure FlatInserts (named : NamedInserts) (positional : PositionalInserts) : Prop where
  keys : ∀ key ∈ named.keys, BraceFree key.toList
  named : ∀ entry ∈ named.entries, Flat entry.2.plainText.toList
  positional : ∀ value ∈ positional, Flat value.plainText.toList

theorem natText_braceFree (value : Nat) : BraceFree (natText value).toList := by
  intro c member
  have digits : c ∈ Nat.toDigits 10 value := by simpa [natText] using member
  have digit := Nat.isDigit_of_mem_toDigits (by decide) (by decide) digits
  simp only [isBrace, Bool.or_eq_false_iff, beq_eq_false_iff_ne]
  constructor
  · intro same
    exact absurd digit (by rw [same]; decide)
  · intro same
    exact absurd digit (by rw [same]; decide)

theorem FlatInserts.clean_rules {named : NamedInserts} {positional : PositionalInserts}
    (flat : FlatInserts named positional) : CleanRules (rulesOf named positional) := by
  intro rule member
  rcases List.mem_append.mp member with indexed | keyed
  · obtain ⟨index, bound, rfl⟩ := List.mem_mapIdx.mp indexed
    exact ⟨natText_braceFree index, flat.positional _ (List.getElem_mem bound)⟩
  · obtain ⟨entry, inside, rfl⟩ := List.mem_map.mp keyed
    exact ⟨flat.keys entry.1 (List.mem_map_of_mem inside), flat.named entry inside⟩

theorem rules_of_placed (named : NamedInserts) (positional : PositionalInserts) :
    (placedInserts named positional).map Placed.rule = rulesOf named positional := by
  simp [rulesOf, placedInserts, Placed.rule, List.mapIdx_eq_zipIdx_map, Function.comp_def]

section Compiled

variable [KeySize]

theorem ofInserts_ok_iff {named : NamedInserts} {positional : PositionalInserts}
    {substitution : Substitution} :
    Substitution.ofInserts named positional = .ok substitution ↔
      oversized? named positional = none ∧ substitution = rulesOf named positional := by
  rw [ofInserts_eq, rules_of_placed]
  cases oversized? named positional with
  | some place => simp
  | none => simp [eq_comm]

theorem rules_of_ofInserts {named : NamedInserts} {positional : PositionalInserts}
    {substitution : Substitution}
    (compiled : Substitution.ofInserts named positional = .ok substitution) :
    substitution = rulesOf named positional :=
  (ofInserts_ok_iff.mp compiled).2

theorem applyInserts_of_ofInserts {named : NamedInserts} {positional : PositionalInserts}
    {substitution : Substitution} (template : String)
    (compiled : Substitution.ofInserts named positional = .ok substitution) :
    applyInserts template named positional = .ok (substitution.render template) := by
  rw [applyInserts, compiled]
  rfl

/-- Passing over the whole text once for each insert is expanding every slot by itself. In
particular a slot is filled by the first insert with its name, and the value of an insert is
expanded by the inserts behind it only. -/
theorem render_eq_expand (template : String) (named : NamedInserts) (positional : PositionalInserts)
    (substitution : Substitution) (templateFlat : Flat template.toList)
    (insertsFlat : FlatInserts named positional)
    (compiled : Substitution.ofInserts named positional = .ok substitution) :
    (substitution.render template).toList = expand (rulesOf named positional) template.toList ∧
      ∀ (before later : Substitution) (rule : Rule) (name : List Char),
        rulesOf named positional = before ++ rule :: later → BraceFree name →
          (∀ other ∈ before, ¬ SameText other.key name) → SameText rule.key name →
            substitution.apply (braced name) = Substitution.apply later rule.value := by
  have rules := rules_of_ofInserts compiled
  have clean := insertsFlat.clean_rules
  constructor
  · rw [rules, Substitution.render, String.toList_ofList]
    exact apply_of_flat _ clean template.toList templateFlat
  · intro before later rule name shape free passed matching
    have laterClean : CleanRules later := fun other member => clean other (by simp [shape, member])
    have valueFlat : Flat rule.value := (clean rule (by simp [shape])).value
    calc substitution.apply (braced name)
        = expand (before ++ rule :: later) (braced name) := by
          rw [rules, apply_of_flat _ clean (braced name) (flat_braced free), shape]
      _ = fillSlot (before ++ rule :: later) name := expand_braced _ free
      _ = expand later rule.value := fill_slot_of_first before later rule name passed matching
      _ = Substitution.apply later rule.value := (apply_of_flat later laterClean _ valueFlat).symm

end Compiled

/-- A value is expanded by the inserts behind it, whatever the case of the names. -/
theorem render_nested_values :
    ∃ substitution,
      Substitution.ofInserts (.ofPairs [("id", .text "{X}"), ("x", .text "v")]) [.text "{ID}"] =
          .ok substitution ∧
        (substitution.render "{0} {no}").toList =
            expand (rulesOf (.ofPairs [("id", .text "{X}"), ("x", .text "v")]) [.text "{ID}"])
              "{0} {no}".toList ∧
          substitution.render "{0} {no}" = "v {no}" := by
  have compiled : Substitution.ofInserts (.ofPairs [("id", .text "{X}"), ("x", .text "v")])
      [.text "{ID}"] = .ok [⟨"0".toList, "{ID}".toList⟩, ⟨"id".toList, "{X}".toList⟩,
        ⟨"x".toList, "v".toList⟩] := rfl
  have flat : FlatInserts (.ofPairs [("id", .text "{X}"), ("x", .text "v")]) [.text "{ID}"] :=
    ⟨by decide +kernel, by decide +kernel, by decide +kernel⟩
  exact ⟨_, compiled, (render_eq_expand _ _ _ _ (by decide +kernel) flat compiled).1, by cbv⟩

end MessageCatalog.Template
