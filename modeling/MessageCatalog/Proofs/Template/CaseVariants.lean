import MessageCatalog.Proofs.Template.Expansion
import Mathlib.Data.List.Forall2

/-!
Two texts that are the same but for case, filled with inserts that are the same but for case. A pass
compares without regard to case only, so it cuts both texts at the same places, whatever braces
stand in them or in the key, and what it makes of them is again the same but for case. The case of
the keys alone has no effect.
-/

namespace MessageCatalog.Template

open Text

inductive Piece.Alike : Piece → Piece → Prop where
  | copied {c d : Char} (same : fold c = fold d) : Alike (.copied c) (.copied d)
  | found {text variant : List Char} (same : SameText text variant) :
      Alike (.found text) (.found variant)

section Pass

variable {key other text variant : List Char}

/-- The two texts are cut at the same places. -/
theorem pieces_alike (sameKey : SameText key other) (same : SameText text variant) :
    List.Forall₂ Piece.Alike (pieces key text) (pieces other variant) := by
  -- Pieces are counted in characters, so that variants of different size in bytes do not shift the
  -- cuts.
  fun_induction pieces key text generalizing variant with
  | case1 text rest step induction =>
      obtain ⟨behind, dropped, sameBehind⟩ := dropStart?_alike (sameText_braced sameKey) same step
      rw [pieces_found dropped, ← sameKey.length_eq]
      exact .cons (.found (same.take _)) (induction sameBehind)
  | case2 =>
      have nothing : variant = [] := List.map_eq_nil_iff.mp same.symm
      rw [nothing, pieces_nil]
      exact .nil
  | case3 c rest step induction =>
      have missing := dropStart?_missing_alike (sameText_braced sameKey) same step
      obtain ⟨d, behind, rfl, sameHead, sameBehind⟩ := List.map_eq_cons_iff.mp same.symm
      rw [pieces_copied missing]
      exact .cons (.copied sameHead.symm) (induction sameBehind.symm)

theorem pieces_congr_key (sameKey : SameText key other) (text : List Char) :
    pieces key text = pieces other text := by
  have sameBraced := sameText_braced sameKey
  fun_induction pieces key text with
  | case1 text rest step induction =>
      rw [dropStart?_congr sameBraced] at step
      rw [pieces_found step, induction, sameKey.length_eq]
  | case2 => rw [pieces_nil]
  | case3 c rest step induction =>
      rw [dropStart?_congr sameBraced] at step
      rw [pieces_copied step, induction]

theorem replacement_alike {value otherValue : List Char} (sameValue : SameText value otherValue)
    {left right : List Piece} (aligned : List.Forall₂ Piece.Alike left right) :
    SameText (left.flatMap (Piece.replacement value))
      (right.flatMap (Piece.replacement otherValue)) := by
  induction aligned with
  | nil => exact SameText.refl []
  | cons alike _ induction =>
      rw [List.flatMap_cons, List.flatMap_cons]
      apply SameText.append _ induction
      cases alike with
      | copied same => simp [Piece.replacement, SameText, same]
      | found same => exact sameValue

end Pass

/-- The same rule but for the case of its key and its value. -/
structure Rule.Alike (rule variant : Rule) : Prop where
  key : SameText rule.key variant.key
  value : SameText rule.value variant.value

section Run

variable {rules variants : Substitution} {text variant : List Char}

theorem apply_alike (aligned : List.Forall₂ Rule.Alike rules variants)
    (same : SameText text variant) :
    SameText (Substitution.apply rules text) (Substitution.apply variants variant) := by
  induction aligned generalizing text variant with
  | nil => exact same
  | cons alike _ induction =>
      apply induction
      exact replacement_alike alike.value (pieces_alike alike.key same)

theorem apply_congr_keys (aligned : List.Forall₂ Rule.Alike rules variants)
    (sameValues : rules.map Rule.value = variants.map Rule.value) (text : List Char) :
    Substitution.apply rules text = Substitution.apply variants text := by
  induction aligned generalizing text with
  | nil => rfl
  | @cons rule variant later laterVariants alike _ induction =>
      obtain ⟨sameValue, sameLater⟩ := List.cons.inj sameValues
      have step :
          replaceAll rule.key rule.value text = replaceAll variant.key variant.value text := by
        rw [replaceAll, replaceAll, pieces_congr_key alike.key, sameValue]
      calc Substitution.apply (rule :: later) text
          = Substitution.apply later (replaceAll rule.key rule.value text) := rfl
        _ = Substitution.apply laterVariants (replaceAll rule.key rule.value text) :=
            induction sameLater _
        _ = Substitution.apply (variant :: laterVariants) text := by rw [step]; rfl

end Run

theorem forall₂_mapIdx {Left Right Out : Type} {related : Left → Right → Prop}
    {made : Out → Out → Prop} {left : List Left} {right : List Right}
    (aligned : List.Forall₂ related left right) {onLeft : Nat → Left → Out}
    {onRight : Nat → Right → Out}
    (step : ∀ index first second,
      related first second → made (onLeft index first) (onRight index second)) :
    List.Forall₂ made (left.mapIdx onLeft) (right.mapIdx onRight) := by
  induction aligned generalizing onLeft onRight with
  | nil => exact .nil
  | cons head _ induction =>
      rw [List.mapIdx_cons, List.mapIdx_cons]
      exact .cons (step 0 _ _ head)
        (induction fun index first second => step (index + 1) first second)

/-- As many inserts on both sides, with texts and names that are the same but for case one by
one. -/
structure InsertsAlike (named : NamedInserts) (positional : PositionalInserts)
    (namedVariant : NamedInserts) (positionalVariant : PositionalInserts) : Prop where
  named : List.Forall₂ (fun entry variant : String × Insert =>
    SameText entry.1.toList variant.1.toList ∧
      SameText entry.2.plainText.toList variant.2.plainText.toList)
    named.entries namedVariant.entries
  positional : List.Forall₂ (fun value variant : Insert =>
    SameText value.plainText.toList variant.plainText.toList) positional positionalVariant

section Inserts

variable {named namedVariant : NamedInserts} {positional positionalVariant : PositionalInserts}

theorem InsertsAlike.rules (alike : InsertsAlike named positional namedVariant positionalVariant) :
    List.Forall₂ Rule.Alike (rulesOf named positional)
      (rulesOf namedVariant positionalVariant) := by
  apply List.rel_append
  · apply forall₂_mapIdx alike.positional
    intro index value variant same
    exact ⟨SameText.refl _, same⟩
  · rw [List.forall₂_map_left_iff, List.forall₂_map_right_iff]
    apply alike.named.imp
    intro entry variant same
    exact ⟨same.1, same.2⟩

theorem values_rulesOf (named : NamedInserts) (positional : PositionalInserts) :
    (rulesOf named positional).map Rule.value =
      (positional.map Insert.plainText ++ named.entries.map fun entry => entry.2.plainText).map
        String.toList := by
  apply List.ext_getElem
  · simp [rulesOf]
  · intro index _ _
    simp only [rulesOf, List.getElem_map, List.getElem_append, List.length_mapIdx, List.length_map,
      List.getElem_mapIdx]
    split <;> rfl

variable [KeySize]

/-- Filling respects case folding in the template, in the names and in the values; and the case of
the names alone makes no difference at all. -/
theorem render_alike (template variant : String) (substitution substitutionVariant : Substitution)
    (sameTemplate : SameText template.toList variant.toList)
    (alike : InsertsAlike named positional namedVariant positionalVariant)
    (compiled : Substitution.ofInserts named positional = .ok substitution)
    (compiledVariant : Substitution.ofInserts namedVariant positionalVariant =
      .ok substitutionVariant) :
    SameText (substitution.render template).toList (substitutionVariant.render variant).toList ∧
      (template = variant →
        positional.map Insert.plainText = positionalVariant.map Insert.plainText →
        (named.entries.map fun entry => entry.2.plainText) =
            (namedVariant.entries.map fun entry => entry.2.plainText) →
          substitution.render template = substitutionVariant.render variant) := by
  obtain rfl := rules_of_ofInserts compiled
  obtain rfl := rules_of_ofInserts compiledVariant
  constructor
  · rw [Substitution.render, Substitution.render, String.toList_ofList, String.toList_ofList]
    exact apply_alike alike.rules sameTemplate
  · rintro rfl samePositional sameNamed
    have sameValues : (rulesOf named positional).map Rule.value =
        (rulesOf namedVariant positionalVariant).map Rule.value := by
      rw [values_rulesOf, values_rulesOf, samePositional, sameNamed]
    rw [Substitution.render, Substitution.render, apply_congr_keys alike.rules sameValues]

end Inserts

/-- The first key could be found at two places that overlap; the Kelvin sign and the capital sharp
`s` take more bytes than their variants. -/
theorem render_alike_overlapping :
    let named : NamedInserts := .ofPairs [("\x7d\x7b", .text "{KEY}"), ("key", .text "ß")]
    let namedVariant : NamedInserts :=
      .ofPairs [("\x7d\x7b", .text "{key}"), ("\u212aEY", .text "ẞ")]
    let otherKeys : NamedInserts := .ofPairs [("\x7d\x7b", .text "{KEY}"), ("\u212aEY", .text "ß")]
    ∃ substitution substitutionVariant substitutionKeys,
      Substitution.ofInserts named [] = .ok substitution ∧
        Substitution.ofInserts namedVariant [] = .ok substitutionVariant ∧
        Substitution.ofInserts otherKeys [] = .ok substitutionKeys ∧
          SameText (substitution.render "\x7b\x7d\x7b\x7d\x7b\x7d k").toList
            (substitutionVariant.render "\x7b\x7d\x7b\x7d\x7b\x7d \u212a").toList ∧
          substitution.render "\x7b\x7d\x7b\x7d\x7b\x7d k" = "ß\x7b\x7d k" ∧
          substitutionVariant.render "\x7b\x7d\x7b\x7d\x7b\x7d \u212a" = "ẞ\x7b\x7d \u212a" ∧
          substitution.render "\x7b\x7d\x7b\x7d\x7b\x7d k" =
            substitutionKeys.render "\x7b\x7d\x7b\x7d\x7b\x7d k" := by
  intro named namedVariant otherKeys
  have compiled : Substitution.ofInserts named [] =
      .ok [⟨"\x7d\x7b".toList, "{KEY}".toList⟩, ⟨"key".toList, "ß".toList⟩] := rfl
  have compiledVariant : Substitution.ofInserts namedVariant [] =
      .ok [⟨"\x7d\x7b".toList, "{key}".toList⟩, ⟨"\u212aEY".toList, "ẞ".toList⟩] := rfl
  have compiledKeys : Substitution.ofInserts otherKeys [] =
      .ok [⟨"\x7d\x7b".toList, "{KEY}".toList⟩, ⟨"\u212aEY".toList, "ß".toList⟩] := rfl
  have alike : InsertsAlike named [] namedVariant [] := ⟨by decide +kernel, .nil⟩
  have alikeKeys : InsertsAlike named [] otherKeys [] := ⟨by decide +kernel, .nil⟩
  have rendered := render_alike "\x7b\x7d\x7b\x7d\x7b\x7d k" "\x7b\x7d\x7b\x7d\x7b\x7d \u212a" _ _
    (by decide +kernel) alike compiled compiledVariant
  have unchanged := render_alike "\x7b\x7d\x7b\x7d\x7b\x7d k" "\x7b\x7d\x7b\x7d\x7b\x7d k" _ _
    (SameText.refl _) alikeKeys compiled compiledKeys
  exact ⟨_, _, _, compiled, compiledVariant, compiledKeys,
    rendered.1, by cbv, by cbv, unchanged.2 rfl rfl rfl⟩

end MessageCatalog.Template
