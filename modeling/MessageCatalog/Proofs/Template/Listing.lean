import MessageCatalog.Proofs.Template.Expansion
import MessageCatalog.Template.Placeholder

/-!
The listing of placeholders against the passes. The listing cuts a template at its opening braces, a
pass searches it for one key; both arrive at the same tokens in every template, also where braces
are unbalanced or nested. So an insert whose name is not listed changes nothing.
-/

namespace MessageCatalog.Template

open Text

theorem nameAt?_cons {c : Char} (free : isBrace c = false) (rest : List Char) :
    nameAt? (c :: rest) = (nameAt? rest).map (c :: ·) := by
  simp only [isBrace, Bool.or_eq_false_iff, beq_eq_false_iff_ne] at free
  by_cases closed : '\x7d' ∈ rest.takeWhile (· != '\x7b')
  · simp [nameAt?, free.1, free.2, closed, Ne.symm free.2]
  · simp [nameAt?, free.1, closed, Ne.symm free.2]

theorem slotAt?_cons {c : Char} (free : isBrace c = false) (rest : List Char) :
    slotAt? (c :: rest) = (slotAt? rest).map fun slot => (c :: slot.1, slot.2) := by
  simp only [slotAt?, List.dropWhile_cons, List.takeWhile_cons, free, Bool.not_false, if_true]
  split <;> simp

/-- Looking for the next opening brace first finds the same name as stopping at the first brace. -/
theorem nameAt?_eq (rest : List Char) : nameAt? rest = (slotAt? rest).map Prod.fst := by
  induction rest with
  | nil => rfl
  | cons c rest induction =>
      by_cases free : isBrace c = false
      · rw [nameAt?_cons free, slotAt?_cons free, induction, Option.map_map, Option.map_map]
        rfl
      · rw [Bool.not_eq_false, isBrace, Bool.or_eq_true, beq_iff_eq, beq_iff_eq] at free
        rcases free with rfl | rfl
        · simp [nameAt?, slotAt?, isBrace]
        · simp [nameAt?, slotAt?, isBrace]

/-- The listing with the places at which the placeholders begin. -/
def placeholdersFrom (start : Nat) : List Char → List (Nat × List Char)
  | [] => []
  | c :: rest =>
      if c = '\x7b' then
        match nameAt? rest with
        | some (first :: more) => (start, first :: more) :: placeholdersFrom (start + 1) rest
        | _ => placeholdersFrom (start + 1) rest
      else placeholdersFrom (start + 1) rest

/-- The occurrences among some pieces with the places at which they begin. -/
def occurrencesFrom (start : Nat) : List Piece → List (Nat × List Char)
  | [] => []
  | .copied _ :: rest => occurrencesFrom (start + 1) rest
  | .found text :: rest => (start, text) :: occurrencesFrom (start + text.length) rest

def placeholders (template : List Char) : List (Nat × List Char) := placeholdersFrom 0 template

/-- What a pass for the key replaces. -/
def occurrences (key template : List Char) : List (Nat × List Char) :=
  occurrencesFrom 0 (pieces key template)

section Listing

variable {start : Nat}

theorem placeholdersFrom_names (start : Nat) (text : List Char) :
    (placeholdersFrom start text).map Prod.snd = placeholderNames text := by
  induction text generalizing start with
  | nil => rfl
  | cons c rest induction =>
      rw [placeholdersFrom, placeholderNames]
      split
      · cases nameAt? rest with
        | none => exact induction (start + 1)
        | some name =>
            cases name with
            | nil => exact induction (start + 1)
            | cons first more => exact congrArg ((first :: more) :: ·) (induction (start + 1))
      · exact induction (start + 1)

/-- A placeholder stands where it is listed. -/
theorem placeholdersFrom_place {text : List Char} {entry : Nat × List Char}
    (listed : entry ∈ placeholdersFrom start text) :
    ∃ offset, entry.1 = start + offset ∧ braced entry.2 <+: text.drop offset := by
  induction text generalizing start with
  | nil => cases listed
  | cons c rest induction =>
      have further : entry ∈ placeholdersFrom (start + 1) rest →
          ∃ offset, entry.1 = start + offset ∧ braced entry.2 <+: (c :: rest).drop offset := by
        intro behind
        obtain ⟨offset, place, stands⟩ := induction behind
        exact ⟨offset + 1, by omega, stands⟩
      rw [placeholdersFrom] at listed
      split at listed
      · next opens =>
          split at listed
          · next first more found =>
              rcases List.mem_cons.mp listed with rfl | behind
              · rw [nameAt?_eq] at found
                obtain ⟨⟨name, after⟩, slot, rfl⟩ := Option.map_eq_some_iff.mp found
                refine ⟨0, rfl, after, ?_⟩
                simp [opens, slotAt?_sound slot, braced]
              · exact further behind
          · exact further listed
      · exact further listed

theorem placeholdersFrom_cons_of_ne {c : Char} (differs : c ≠ '\x7b') (rest : List Char) :
    placeholdersFrom start (c :: rest) = placeholdersFrom (start + 1) rest := by
  rw [placeholdersFrom, if_neg differs]

theorem placeholdersFrom_append_of_no_open {left : List Char} (noOpen : '\x7b' ∉ left)
    (right : List Char) :
    placeholdersFrom start (left ++ right) = placeholdersFrom (start + left.length) right := by
  induction left generalizing start with
  | nil => rfl
  | cons c left induction =>
      have differs : c ≠ '\x7b' := (List.ne_of_not_mem_cons noOpen).symm
      rw [List.cons_append, placeholdersFrom_cons_of_ne differs,
        induction (List.not_mem_of_not_mem_cons noOpen), List.length_cons]
      congr 1
      omega

theorem placeholdersFrom_stray {rest : List Char} (missing : slotAt? rest = none) :
    placeholdersFrom start ('\x7b' :: rest) = placeholdersFrom (start + 1) rest := by
  rw [placeholdersFrom, if_pos rfl, nameAt?_eq, missing]
  rfl

theorem placeholdersFrom_slot {name : List Char} (free : BraceFree name) (rest : List Char) :
    placeholdersFrom start (braced name ++ rest) =
      (if name = [] then [] else [(start, name)]) ++
        placeholdersFrom (start + (braced name).length) rest := by
  have noOpen : '\x7b' ∉ name ++ ['\x7d'] := by simpa using free.not_mem_open
  have behind : placeholdersFrom (start + 1) (name ++ '\x7d' :: rest) =
      placeholdersFrom (start + (braced name).length) rest := by
    have passed : placeholdersFrom (start + 1) (name ++ ['\x7d'] ++ rest) =
        placeholdersFrom (start + 1 + (name ++ ['\x7d']).length) rest :=
      placeholdersFrom_append_of_no_open noOpen rest
    rw [List.append_assoc, List.singleton_append] at passed
    rw [passed, braced_length, List.length_append, List.length_singleton]
    congr 1
    omega
  rw [braced_append, placeholdersFrom, if_pos rfl, nameAt?_eq, slotAt?_closed name rest free]
  cases name with
  | nil => exact behind
  | cons first more => exact congrArg (_ :: ·) behind

end Listing

section Occurrences

variable {start : Nat} {key : List Char}

theorem occurrencesFrom_copied (start : Nat) (text : List Char) (rest : List Piece) :
    occurrencesFrom start (text.map .copied ++ rest) =
      occurrencesFrom (start + text.length) rest := by
  induction text generalizing start with
  | nil => rfl
  | cons c text induction =>
      rw [List.map_cons, List.cons_append, occurrencesFrom, induction, List.length_cons]
      congr 1
      omega

theorem occurrencesFrom_slot (start : Nat) (key name : List Char) (rest : List Piece) :
    occurrencesFrom start ((Segment.slot name).pieces key ++ rest) =
      (if sameText key name then [(start, braced name)] else []) ++
        occurrencesFrom (start + (braced name).length) rest := by
  by_cases same : sameText key name
  · rw [Segment.pieces, if_pos same, if_pos same]
    rfl
  · rw [Segment.pieces, if_neg same, if_neg same]
    exact occurrencesFrom_copied start (braced name) rest

/-- The tokens under the name of a key among the placeholders listed. -/
def tokensNamed (key : List Char) (listed : List (Nat × List Char)) : List (Nat × List Char) :=
  (listed.filter fun entry => sameText key entry.2).map fun entry => (entry.1, braced entry.2)

theorem occurrencesFrom_pieces (keyFree : BraceFree key) (nonempty : key ≠ []) (start passed : Nat)
    (text : List Char) :
    occurrencesFrom start (pieces key (text.drop passed)) =
      tokensNamed key (placeholdersFrom start (text.drop passed)) := by
  -- The listing goes on inside a token and the pass behind it, so the induction follows the
  -- segments.
  fun_induction segmentsFrom passed text generalizing start with
  | case1 => rw [List.drop_nil, pieces_nil]; rfl
  | case2 passed c rest induction => exact induction start
  | case3 rest name after found induction =>
      have free := slotAt?_free found
      have shape : '\x7b' :: rest = braced name ++ after := by
        rw [slotAt?_sound found, braced_append]
      have behind : rest.drop (name.length + 1) = after := by simp [slotAt?_sound found]
      have onward := induction (start + (braced name).length)
      rw [behind] at onward
      rw [List.drop_zero, shape, pieces_slot key name after keyFree free,
        occurrencesFrom_slot, onward, placeholdersFrom_slot free, tokensNamed, tokensNamed,
        List.filter_append, List.map_append]
      congr 1
      by_cases same : sameText key name
      · have named : name ≠ [] := by
          rintro rfl
          exact nonempty (by simpa [SameText] using (sameText_iff key []).mp same)
        simp [same, named]
      · by_cases unnamed : name = []
        · subst unnamed
          simp [same]
        · simp [same, unnamed]
  | case4 rest missing induction =>
      rw [List.drop_zero, pieces_copied (dropStart?_stray keyFree missing),
        placeholdersFrom_stray missing]
      exact induction (start + 1)
  | case5 c rest differs induction =>
      rw [List.drop_zero, pieces_cons_of_ne key rest differs, placeholdersFrom_cons_of_ne differs]
      exact induction (start + 1)

theorem occurrences_eq (keyFree : BraceFree key) (nonempty : key ≠ []) (template : List Char) :
    occurrences key template = tokensNamed key (placeholders template) :=
  occurrencesFrom_pieces keyFree nonempty 0 0 template

theorem source_of_no_occurrence (value : List Char) {row : List Piece}
    (nothing : occurrencesFrom start row = []) :
    row.flatMap (Piece.replacement value) = row.flatMap Piece.source := by
  induction row generalizing start with
  | nil => rfl
  | cons piece row induction =>
      cases piece with
      | copied c =>
          rw [List.flatMap_cons, List.flatMap_cons, induction nothing]
          rfl
      | found text => cases nothing

theorem replaceAll_of_no_occurrence {template : List Char} (value : List Char)
    (nothing : occurrences key template = []) : replaceAll key value template = template := by
  rw [replaceAll, source_of_no_occurrence value nothing, pieces_source]

theorem replaceAll_of_unlisted {template : List Char} (value : List Char) (keyFree : BraceFree key)
    (nonempty : key ≠ []) (unlisted : ∀ name ∈ placeholderNames template, ¬ SameText key name) :
    replaceAll key value template = template := by
  apply replaceAll_of_no_occurrence
  rw [occurrences_eq keyFree nonempty, tokensNamed, List.map_eq_nil_iff, List.filter_eq_nil_iff]
  intro entry listed same
  have name : entry.2 ∈ placeholderNames template := by
    rw [← placeholdersFrom_names 0]
    exact List.mem_map_of_mem listed
  exact unlisted entry.2 name ((sameText_iff _ _).mp same)

end Occurrences

theorem natText_ne_empty (value : Nat) : (natText value).toList ≠ [] := by
  simp [natText, Nat.toDigits_ne_nil]

/-- The index of a positional insert is a proper name. -/
theorem proper_keys {named : NamedInserts} (positional : PositionalInserts)
    (keys : ∀ key ∈ named.keys, key ≠ "" ∧ BraceFree key.toList) :
    ∀ rule ∈ rulesOf named positional, rule.key ≠ [] ∧ BraceFree rule.key := by
  intro rule member
  rcases List.mem_append.mp member with indexed | keyed
  · obtain ⟨index, _, rfl⟩ := List.mem_mapIdx.mp indexed
    exact ⟨natText_ne_empty index, natText_braceFree index⟩
  · obtain ⟨entry, inside, rfl⟩ := List.mem_map.mp keyed
    have proper := keys entry.1 (List.mem_map_of_mem inside)
    exact ⟨by simpa using proper.1, proper.2⟩

section Compiled

variable [KeySize]

theorem apply_inserts_of_unlisted {template : String} {named : NamedInserts}
    {positional : PositionalInserts} {substitution : Substitution}
    (compiled : Substitution.ofInserts named positional = .ok substitution)
    (keys : ∀ key ∈ named.keys, key ≠ "" ∧ BraceFree key.toList)
    (unlisted : ∀ name ∈ placeholderNames template.toList, ∀ rule ∈ rulesOf named positional,
      ¬ SameText rule.key name) :
    applyInserts template named positional = .ok template := by
  have unchanged :
      Substitution.apply (rulesOf named positional) template.toList = template.toList := by
    apply apply_of_unchanged
    intro rule member
    have proper := proper_keys positional keys rule member
    exact replaceAll_of_unlisted rule.value proper.2 proper.1 fun name listed =>
      unlisted name listed rule member
  rw [applyInserts_of_ofInserts template compiled, rules_of_ofInserts compiled, Substitution.render,
    unchanged, String.ofList_toList]

/-- The placeholders listed under the name of a key are what a pass for it replaces, one by one and
in their places, in every template. So inserts under names that are not listed leave a template as
it is. -/
theorem listed_placeholders_replaced (template : String) :
    (placeholders template.toList).map Prod.snd = placeholderNames template.toList ∧
      (∀ entry ∈ placeholders template.toList, braced entry.2 <+: template.toList.drop entry.1) ∧
      (∀ key, key ≠ [] → BraceFree key →
        occurrences key template.toList = tokensNamed key (placeholders template.toList)) ∧
      ∀ named positional substitution, Substitution.ofInserts named positional = .ok substitution →
        (∀ key ∈ named.keys, key ≠ "" ∧ BraceFree key.toList) →
          (hasPlaceholders template.toList = false ∨ ∀ name ∈ placeholderNames template.toList,
            ∀ rule ∈ rulesOf named positional, ¬ SameText rule.key name) →
          applyInserts template named positional = .ok template := by
  refine ⟨placeholdersFrom_names 0 _, ?_, ?_, ?_⟩
  · intro entry listed
    obtain ⟨offset, place, stands⟩ := placeholdersFrom_place listed
    rw [place, Nat.zero_add]
    exact stands
  · intro key nonempty keyFree
    exact occurrences_eq keyFree nonempty template.toList
  · intro named positional substitution compiled keys unused
    apply apply_inserts_of_unlisted compiled keys
    rcases unused with nothing | unlisted
    · rw [hasPlaceholders, Bool.not_eq_false', List.isEmpty_iff] at nothing
      simp [nothing]
    · exact unlisted

end Compiled

/-- An empty name, an opening brace before another and one that is never closed. -/
theorem listed_placeholders_replaced_unbalanced :
    let template : String := "\x7b{Id}\x7d \x7b\x7d \x7bid {K}"
    placeholderNames template.toList = ["Id".toList, "K".toList] ∧
      occurrences "id".toList template.toList = [(1, "{Id}".toList)] ∧
      occurrences "\u212a".toList template.toList = [(14, "{K}".toList)] ∧
      applyInserts template (.ofPairs [("idle", .text "{K}")]) [.text "v"] = .ok template := by
  intro template
  have compiled : Substitution.ofInserts (.ofPairs [("idle", .text "{K}")]) [.text "v"] =
      .ok [⟨"0".toList, "v".toList⟩, ⟨"idle".toList, "{K}".toList⟩] := rfl
  obtain ⟨_, _, replaced, unchanged⟩ := listed_placeholders_replaced template
  refine ⟨by decide +kernel, ?_, ?_, ?_⟩
  · rw [replaced _ (by decide) (by decide +kernel)]
    decide +kernel
  · rw [replaced _ (by decide) (by decide +kernel)]
    decide +kernel
  · exact unchanged _ _ _ compiled (by decide +kernel) (Or.inr (by decide +kernel))

end MessageCatalog.Template
