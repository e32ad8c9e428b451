import Mathlib.Data.List.Nodup
import Mathlib.Data.List.Permutation
import Mathlib.Data.List.TakeDrop
import Mathlib.Data.List.TakeWhile
import MessageCatalog.Keyed
import MessageCatalog.Proofs.Text.ByteOrder

/-!
Looking up, sorting and removing in associations. With distinct keys an association is determined as
a map by its entries in any order, so sorting changes no lookup, and taking an entry out leaves
exactly the others. As a list it is determined by its keys in order and the value under each;
written pair by pair, it has its keys in the order of their first writing and under each the value
written last. An entry that is taken out with the last one put in its place leaves the order of the
others as it was only if at most one of them stood behind it.
-/

namespace MessageCatalog.Keyed

section Lookup

variable {Value Result Key Other : Type}

theorem key_mem_keys {entry : Key × Value} {entries : Keyed Value Key} (member : entry ∈ entries) :
    entry.1 ∈ keys entries := List.mem_map_of_mem member

theorem distinct_cons {entry : Key × Value} {rest : Keyed Value Key} :
    Distinct (entry :: rest) ↔ entry.1 ∉ keys rest ∧ Distinct rest := List.nodup_cons

theorem distinct_rename {rename : Key → Other} (injective : Function.Injective rename)
    (entries : Keyed Value Key) (distinct : Distinct entries) :
    Distinct (entries.map fun entry => (rename entry.1, entry.2)) := by
  have renamed : keys (entries.map fun entry => (rename entry.1, entry.2)) =
      (keys entries).map rename := by
    simp [keys, Function.comp_def]
  rw [Distinct, renamed]
  exact List.Nodup.map injective distinct

theorem distinct_filter {entries : Keyed Value Key} (distinct : Distinct entries)
    (keep : Key × Value → Bool) :
    Distinct (entries.filter keep) :=
  List.Nodup.sublist (List.filter_sublist.map Prod.fst) distinct

/-- The key of an entry is found at its own place only. -/
theorem not_mem_around {key : Key} {value : Value} {before after : Keyed Value Key}
    (distinct : Distinct (before ++ (key, value) :: after)) :
    key ∉ keys before ∧ key ∉ keys after := by
  have parts : (keys before ++ key :: keys after).Nodup := by
    simpa [Distinct, keys] using distinct
  obtain ⟨_, behind, apart⟩ := List.nodup_append.mp parts
  constructor
  · intro member
    exact apart key member key List.mem_cons_self rfl
  · exact (List.nodup_cons.mp behind).1

theorem lastFirst_perm (entries : Keyed Value Key) : (lastFirst entries).Perm entries := by
  unfold lastFirst
  split
  · next empty =>
      rw [List.getLast?_eq_none_iff] at empty
      rw [empty]
  · next last shape =>
      obtain ⟨others, rfl⟩ := List.getLast?_eq_some_iff.mp shape
      rw [List.dropLast_concat]
      exact (List.perm_append_singleton last others).symm

theorem lastFirst_concat (others : Keyed Value Key) (last : Key × Value) :
    lastFirst (others ++ [last]) = last :: others := by
  simp [lastFirst]

theorem lastFirst_eq_self_iff {entries : Keyed Value Key} (distinct : Distinct entries) :
    lastFirst entries = entries ↔ entries.length ≤ 1 := by
  cases entries using List.reverseRecOn with
  | nil => simp [lastFirst]
  | append_singleton others last =>
      rw [lastFirst_concat]
      cases others with
      | nil => simp
      | cons first rest =>
          -- The last entry would be the first one as well.
          have apart : last ≠ first := by
            rintro rfl
            exact (distinct_cons.mp distinct).1 (key_mem_keys (by simp))
          simp [apart]

variable [DecidableEq Key] [DecidableEq Other]

theorem mem_of_get? {key : Key} {value : Value} {entries : Keyed Value Key}
    (found : get? key entries = some value) : (key, value) ∈ entries := by
  induction entries with
  | nil => cases found
  | cons entry rest induction =>
      by_cases same : entry.1 = key
      · have value_eq : entry.2 = value := by simpa [get?, same] using found
        rw [← same, ← value_eq]
        exact List.mem_cons_self
      · exact List.mem_cons_of_mem _ (induction (by simpa [get?, same] using found))

theorem get?_of_mem {key : Key} {value : Value} {entries : Keyed Value Key}
    (distinct : Distinct entries) (member : (key, value) ∈ entries) :
    get? key entries = some value := by
  induction entries with
  | nil => cases member
  | cons entry rest induction =>
      have parts := distinct_cons.mp distinct
      rcases List.mem_cons.mp member with same | inside
      · simp [get?, ← same]
      · have differs : entry.1 ≠ key := by
          intro same
          exact parts.1 (same ▸ key_mem_keys inside)
        rw [get?, if_neg differs]
        exact induction parts.2 inside

theorem get?_eq_some_iff {key : Key} {value : Value} {entries : Keyed Value Key}
    (distinct : Distinct entries) : get? key entries = some value ↔ (key, value) ∈ entries :=
  ⟨mem_of_get?, get?_of_mem distinct⟩

theorem mem_keys_iff (key : Key) (entries : Keyed Value Key) :
    key ∈ keys entries ↔ ∃ value, get? key entries = some value := by
  have absent := get?_eq_none_iff key entries
  cases found : get? key entries with
  | none => simpa using absent.mp found
  | some value => simpa [found] using absent

/-- The order of the entries does not matter for looking up. -/
theorem get?_of_perm (key : Key) {left right : Keyed Value Key} (distinct : Distinct left)
    (same : left.Perm right) : get? key left = get? key right := by
  have other : Distinct right := (same.map Prod.fst).nodup_iff.mp distinct
  apply Option.ext
  intro value
  rw [get?_eq_some_iff distinct, get?_eq_some_iff other, same.mem_iff]

theorem get?_append (key : Key) (left right : Keyed Value Key) :
    get? key (left ++ right) = (get? key left).or (get? key right) := by
  induction left with
  | nil => rfl
  | cons entry rest induction =>
      rw [List.cons_append, get?, get?, induction]
      split <;> rfl

/-- Where keys are distinct, looking up and collecting all entries of a key come to the same. -/
theorem filter_key {entries : Keyed Value Key} (distinct : Distinct entries) (key : Key) :
    entries.filter (fun entry => entry.1 == key) =
      ((get? key entries).map fun value => (key, value)).toList := by
  induction entries with
  | nil => rfl
  | cons entry rest induction =>
      obtain ⟨absent, others⟩ := distinct_cons.mp distinct
      by_cases same : entry.1 = key
      · have none_left : get? key rest = none := (get?_eq_none_iff key rest).mpr (same ▸ absent)
        rw [List.filter_cons_of_pos (by simp [same]), induction others, none_left, get?,
          if_pos same, ← same]
        rfl
      · rw [List.filter_cons_of_neg (by simp [same]), induction others, get?, if_neg same]

theorem mem_put {key : Key} {value : Value} {entries : Keyed Value Key} {entry : Key × Value}
    (member : entry ∈ put key value entries) : entry = (key, value) ∨ entry ∈ entries := by
  induction entries with
  | nil => exact Or.inl (by simpa [put] using member)
  | cons first rest induction =>
      rw [put] at member
      split at member
      · next same =>
          rcases List.mem_cons.mp member with replaced | inside
          · exact Or.inl (by rw [replaced, same])
          · exact Or.inr (List.mem_cons_of_mem _ inside)
      · rcases List.mem_cons.mp member with kept | inside
        · exact Or.inr (kept ▸ List.mem_cons_self)
        · exact (induction inside).imp_right (List.mem_cons_of_mem _)

theorem mem_overlay {lower upper : Keyed Value Key} {entry : Key × Value}
    (member : entry ∈ overlay lower upper) :
    entry ∈ lower ∨ entry ∈ upper := by
  induction upper generalizing lower with
  | nil => exact Or.inl member
  | cons first rest induction =>
      rcases induction member with stored | above
      · rcases mem_put stored with written | below
        · exact Or.inr (written ▸ List.mem_cons_self)
        · exact Or.inl below
      · exact Or.inr (List.mem_cons_of_mem first above)

theorem mem_ofPairs {pairs : List (Key × Value)} {entry : Key × Value}
    (member : entry ∈ ofPairs pairs) :
    entry ∈ pairs := (mem_overlay member).resolve_left (by simp)

theorem keys_overlay (lower upper : Keyed Value Key) (distinct : Distinct upper) :
    keys (overlay lower upper) = keys lower ++ (keys upper).filter (· ∉ keys lower) := by
  induction upper generalizing lower with
  | nil => simp [overlay, keys]
  | cons entry rest induction =>
      obtain ⟨absent, restDistinct⟩ := distinct_cons.mp distinct
      have onward : keys (overlay lower (entry :: rest)) =
          keys (overlay (put entry.1 entry.2 lower) rest) := rfl
      have names : keys (entry :: rest) = entry.1 :: keys rest := rfl
      rw [onward, induction _ restDistinct, names]
      by_cases member : entry.1 ∈ keys lower
      · rw [keys_put_of_mem _ _ _ member, List.filter_cons_of_neg (by simpa using member)]
      · rw [keys_put_of_not_mem _ _ _ member, List.filter_cons_of_pos (by simpa using member),
          List.append_assoc, List.singleton_append]
        congr 2
        apply List.filter_congr
        intro key inside
        have differs : key ≠ entry.1 := by
          intro same
          exact absent (same ▸ inside)
        simp [differs]

/-- Searching by key alone ends at the entry of the first key that is accepted. -/
theorem find?_by_key (accept : Key → Bool) (entries : Keyed Value Key) :
    entries.find? (fun entry => accept entry.1) =
      ((keys entries).find? accept).bind fun key =>
        (get? key entries).map fun value => (key, value) := by
  induction entries with
  | nil => rfl
  | cons entry rest induction =>
      have names : keys (entry :: rest) = entry.1 :: keys rest := rfl
      rw [names, List.find?_cons, List.find?_cons]
      cases accepted : accept entry.1 with
      | true => simp [get?]
      | false =>
          rw [induction]
          cases first : (keys rest).find? accept with
          | none => rfl
          | some key =>
              have differs : entry.1 ≠ key := by
                intro same
                have refused : accept key = false := same ▸ accepted
                rw [List.find?_some first] at refused
                cases refused
              simp [get?, differs]

theorem forall_overlay {Holds : Value → Prop} {lower upper : Keyed Value Key}
    (below : ∀ entry ∈ lower, Holds entry.2) (above : ∀ entry ∈ upper, Holds entry.2) :
    ∀ entry ∈ overlay lower upper, Holds entry.2 := by
  intro entry member
  rcases mem_overlay member with inLower | inUpper
  · exact below entry inLower
  · exact above entry inUpper

theorem forall_ofPairs {Holds : Value → Prop} {pairs : List (Key × Value)}
    (each : ∀ pair ∈ pairs, Holds pair.2) :
    ∀ entry ∈ ofPairs pairs, Holds entry.2 := fun entry member => each entry (mem_ofPairs member)

theorem get?_map (key : Key) (convert : Value → Result) (entries : Keyed Value Key) :
    get? key (entries.map fun entry => (entry.1, convert entry.2)) =
      (get? key entries).map convert := by
  induction entries with
  | nil => rfl
  | cons entry rest induction =>
      by_cases same : entry.1 = key
      · simp [get?, same]
      · simp [get?, same, induction]

/-- Looking up under keys that have been given new names, each its own. -/
theorem get?_rename {rename : Key → Other} (injective : Function.Injective rename) (key : Key)
    (entries : Keyed Value Key) :
    get? (rename key) (entries.map fun entry => (rename entry.1, entry.2)) = get? key entries := by
  induction entries with
  | nil => rfl
  | cons entry rest induction =>
      by_cases same : entry.1 = key
      · simp [get?, same]
      · simp [get?, injective.ne same, same, induction]

theorem all_differ {key : Key} {entries : Keyed Value Key} (absent : key ∉ keys entries) :
    ∀ entry ∈ entries, decide (entry.1 ≠ key) = true := by
  intro entry member
  simp only [decide_eq_true_eq]
  intro same
  exact absent (same ▸ key_mem_keys member)

theorem swapRemove_of_not_mem {key : Key} {entries : Keyed Value Key}
    (absent : key ∉ keys entries) :
    swapRemove key entries = entries := by
  have nothing : entries.dropWhile (fun entry => entry.1 ≠ key) = [] := by
    rw [List.dropWhile_eq_nil_iff]
    exact all_differ absent
  rw [swapRemove, List.span_eq_takeWhile_dropWhile, nothing]

/-- The last entry behind the one taken out moves into its place. -/
theorem swapRemove_of_mem {key : Key} {before : Keyed Value Key} (value : Value)
    (after : Keyed Value Key) (absent : key ∉ keys before) :
    swapRemove key (before ++ (key, value) :: after) = before ++ lastFirst after := by
  have others := all_differ absent
  rw [swapRemove, List.span_eq_takeWhile_dropWhile, List.takeWhile_append_of_pos others,
    List.dropWhile_append_of_pos others]
  simp

theorem filter_eq_self_of_not_mem {key : Key} {entries : Keyed Value Key}
    (absent : key ∉ keys entries) : entries.filter (fun entry => entry.1 ≠ key) = entries := by
  rw [List.filter_eq_self]
  exact all_differ absent

theorem get?_filter_of_ne {key other : Key} (entries : Keyed Value Key) (differs : other ≠ key) :
    get? other (entries.filter fun entry => entry.1 ≠ key) = get? other entries := by
  induction entries with
  | nil => rfl
  | cons entry rest induction =>
      by_cases removed : entry.1 = key
      · have apart : ¬ entry.1 = other := fun same => differs (same.symm.trans removed)
        rw [List.filter_cons_of_neg (by simp [removed]), induction, get?, if_neg apart]
      · rw [List.filter_cons_of_pos (by simp [removed]), get?, get?, induction]

theorem get?_filter_self (key : Key) (entries : Keyed Value Key) :
    get? key (entries.filter fun entry => entry.1 ≠ key) = none := by
  rw [get?_eq_none_iff]
  intro member
  obtain ⟨entry, inside, same⟩ := List.mem_map.mp member
  have differs : entry.1 ≠ key := by simpa using (List.mem_filter.mp inside).2
  exact differs same

theorem filter_around {key : Key} {value : Value} {before after : Keyed Value Key}
    (distinct : Distinct (before ++ (key, value) :: after)) :
    (before ++ (key, value) :: after).filter (fun entry => entry.1 ≠ key) = before ++ after := by
  obtain ⟨absentBefore, absentAfter⟩ := not_mem_around distinct
  rw [List.filter_append, filter_eq_self_of_not_mem absentBefore, List.filter_cons_of_neg (by simp),
    filter_eq_self_of_not_mem absentAfter]

/-- Taking a key out leaves the other entries, in some order. -/
theorem swapRemove_perm (key : Key) (entries : Keyed Value Key) (distinct : Distinct entries) :
    (swapRemove key entries).Perm (entries.filter fun entry => entry.1 ≠ key) := by
  cases found : get? key entries with
  | none =>
      have absent := (get?_eq_none_iff key entries).mp found
      rw [swapRemove_of_not_mem absent, filter_eq_self_of_not_mem absent]
  | some value =>
      obtain ⟨before, after, rfl⟩ := List.append_of_mem (mem_of_get? found)
      rw [swapRemove_of_mem value after (not_mem_around distinct).1, filter_around distinct]
      exact (lastFirst_perm after).append_left before

theorem swapRemove_around_iff {key : Key} {value : Value} {before after : Keyed Value Key}
    (distinct : Distinct (before ++ (key, value) :: after)) :
    swapRemove key (before ++ (key, value) :: after) =
        (before ++ (key, value) :: after).filter (fun entry => entry.1 ≠ key) ↔
          after.length ≤ 1 := by
  have behind : Distinct ((key, value) :: after) :=
    List.Nodup.sublist ((List.sublist_append_right before _).map Prod.fst) distinct
  rw [swapRemove_of_mem value after (not_mem_around distinct).1, filter_around distinct,
    List.append_cancel_left_eq]
  exact lastFirst_eq_self_iff (distinct_cons.mp behind).2

/-- The others keep their order if and only if at most one of them stood behind the one taken
out. -/
theorem swapRemove_eq_filter_iff {key : Key} {entries : Keyed Value Key}
    (distinct : Distinct entries) :
    swapRemove key entries = entries.filter (fun entry => entry.1 ≠ key) ↔
      ∀ before value after, entries = before ++ (key, value) :: after → after.length ≤ 1 := by
  constructor
  · rintro same before value after rfl
    exact (swapRemove_around_iff distinct).mp same
  · intro short
    cases found : get? key entries with
    | none =>
        have absent := (get?_eq_none_iff key entries).mp found
        rw [swapRemove_of_not_mem absent, filter_eq_self_of_not_mem absent]
    | some value =>
        obtain ⟨before, after, rfl⟩ := List.append_of_mem (mem_of_get? found)
        exact (swapRemove_around_iff distinct).mpr (short before value after rfl)

theorem get?_swapRemove_of_ne {key other : Key} {entries : Keyed Value Key}
    (distinct : Distinct entries) (differs : other ≠ key) :
    get? other (swapRemove key entries) = get? other entries := by
  rw [← get?_of_perm other (distinct_filter distinct _) (swapRemove_perm key entries distinct).symm,
    get?_filter_of_ne entries differs]

theorem not_mem_swapRemove (key : Key) {entries : Keyed Value Key} (distinct : Distinct entries) :
    key ∉ keys (swapRemove key entries) := by
  rw [← get?_eq_none_iff,
    ← get?_of_perm key (distinct_filter distinct _) (swapRemove_perm key entries distinct).symm,
    get?_filter_self]

theorem mem_of_swapRemove {key : Key} {entries : Keyed Value Key} (distinct : Distinct entries)
    {entry : Key × Value} (member : entry ∈ swapRemove key entries) : entry ∈ entries :=
  (List.mem_filter.mp ((swapRemove_perm key entries distinct).mem_iff.mp member)).1

theorem distinct_swapRemove (key : Key) {entries : Keyed Value Key} (distinct : Distinct entries) :
    Distinct (swapRemove key entries) :=
  ((swapRemove_perm key entries distinct).map Prod.fst).nodup_iff.mpr (distinct_filter distinct _)

end Lookup

section Writing

variable {Value Key : Type} [DecidableEq Key] {left right : Keyed Value Key}
    {pairs more : List (Key × Value)}

/-- An association with distinct keys is made of its keys in order and what each of them leads
to. -/
theorem eq_filterMap_keys {entries : Keyed Value Key} (distinct : Distinct entries) :
    entries = (keys entries).filterMap fun key =>
      (get? key entries).map fun value => (key, value) := by
  induction entries with
  | nil => rfl
  | cons entry rest induction =>
      obtain ⟨absent, restDistinct⟩ := distinct_cons.mp distinct
      have names : keys (entry :: rest) = entry.1 :: keys rest := rfl
      have first : get? entry.1 (entry :: rest) = some entry.2 := by rw [get?, if_pos rfl]
      have others : ∀ key ∈ keys rest, get? key (entry :: rest) = get? key rest := by
        intro key inside
        have differs : entry.1 ≠ key := fun same => absent (same ▸ inside)
        rw [get?, if_neg differs]
      rw [names, List.filterMap_cons, first]
      change entry :: rest = entry :: _
      rw [List.filterMap_congr fun key inside => by
        rw [others key inside], ← induction restDistinct]

theorem eq_of_same_keys (distinct : Distinct left) (sameKeys : keys left = keys right)
    (sameValues : ∀ key, get? key left = get? key right) : left = right := by
  have alsoDistinct : Distinct right := by rwa [Distinct, ← sameKeys]
  rw [eq_filterMap_keys distinct, eq_filterMap_keys alsoDistinct, sameKeys]
  simp only [sameValues]

theorem overlay_append (lower upper more : Keyed Value Key) :
    overlay lower (upper ++ more) = overlay (overlay lower upper) more := List.foldl_append

theorem overlay_ofPairs (pairs more : List (Key × Value)) :
    overlay (ofPairs pairs) more = ofPairs (pairs ++ more) := (overlay_append [] pairs more).symm

theorem ofPairs_concat (pairs : List (Key × Value)) (pair : Key × Value) :
    ofPairs (pairs ++ [pair]) = put pair.1 pair.2 (ofPairs pairs) := overlay_append [] pairs [pair]

theorem mem_keys_put {key other : Key} {value : Value} {entries : Keyed Value Key} :
    other ∈ keys (put key value entries) ↔ other ∈ keys entries ∨ other = key := by
  by_cases member : key ∈ keys entries
  · rw [keys_put_of_mem key value entries member]
    constructor
    · exact Or.inl
    · rintro (inside | same)
      · exact inside
      · exact same ▸ member
  · simp [keys_put_of_not_mem key value entries member]

theorem mem_keys_ofPairs (key : Key) (pairs : List (Key × Value)) :
    key ∈ keys (ofPairs pairs) ↔ key ∈ keys pairs := by
  induction pairs using List.reverseRecOn with
  | nil => rfl
  | append_singleton pairs pair induction =>
      rw [ofPairs_concat, mem_keys_put, induction]
      simp [keys]

/-- The last value written under a key is the one found. -/
theorem get?_ofPairs (key : Key) (pairs : List (Key × Value)) :
    get? key (ofPairs pairs) = get? key pairs.reverse := by
  induction pairs using List.reverseRecOn with
  | nil => rfl
  | append_singleton pairs pair induction =>
      rw [ofPairs_concat, List.reverse_concat, get?]
      by_cases same : pair.1 = key
      · rw [if_pos same, ← same, get?_put_self]
      · rw [if_neg same, get?_put_of_ne _ _ _ _ same, induction]

/-- The keys stand in the order in which they were first written. -/
theorem keys_ofPairs_order (pairs : List (Key × Value)) :
    (keys (ofPairs pairs)).Pairwise fun earlier later =>
      (keys pairs).idxOf earlier < (keys pairs).idxOf later := by
  induction pairs using List.reverseRecOn with
  | nil => exact .nil
  | append_singleton pairs pair induction =>
      have names : keys (pairs ++ [pair]) = keys pairs ++ [pair.1] := by simp [keys]
      have written : ∀ {key}, key ∈ keys (ofPairs pairs) → key ∈ keys pairs :=
        (mem_keys_ofPairs _ pairs).mp
      -- The place of a key that was there before does not change by one more write.
      have before : (keys (ofPairs pairs)).Pairwise fun earlier later =>
          (keys pairs ++ [pair.1]).idxOf earlier < (keys pairs ++ [pair.1]).idxOf later := by
        refine induction.imp_of_mem ?_
        intro earlier later inside alsoInside below
        rwa [List.idxOf_append_of_mem (written inside),
          List.idxOf_append_of_mem (written alsoInside)]
      rw [ofPairs_concat, names]
      by_cases member : pair.1 ∈ keys (ofPairs pairs)
      · rwa [keys_put_of_mem _ _ _ member]
      · rw [keys_put_of_not_mem _ _ _ member, List.pairwise_append]
        refine ⟨before, List.pairwise_singleton _ _, ?_⟩
        intro earlier inside later last
        rw [List.mem_singleton.mp last, List.idxOf_append_of_mem (written inside),
          List.idxOf_append_of_notMem (mt (mem_keys_ofPairs _ pairs).mpr member)]
        exact lt_of_lt_of_le (List.idxOf_lt_length_of_mem (written inside)) (Nat.le_add_right _ _)

/-- What is kept of pairs that are written one after the other: each key once, in the order of the
first writing, with the value that was written last. -/
structure LastWritten (pairs : List (Key × Value)) (kept : Keyed Value Key) : Prop where
  distinct : Distinct kept
  keys : ∀ key, key ∈ keys kept ↔ key ∈ keys pairs
  order : (Keyed.keys kept).Pairwise fun earlier later =>
    (Keyed.keys pairs).idxOf earlier < (Keyed.keys pairs).idxOf later
  latest : ∀ key, get? key kept = get? key pairs.reverse

theorem lastWritten_ofPairs (pairs : List (Key × Value)) : LastWritten pairs (ofPairs pairs) where
  distinct := distinct_ofPairs pairs
  keys key := mem_keys_ofPairs key pairs
  order := keys_ofPairs_order pairs
  latest key := get?_ofPairs key pairs

/-- Nothing is left open by saying what is kept. -/
theorem LastWritten.unique {kept other : Keyed Value Key} (written : LastWritten pairs kept)
    (alsoWritten : LastWritten pairs other) : kept = other := by
  have samePlaces : (Keyed.keys kept).Perm (Keyed.keys other) := by
    apply (List.perm_ext_iff_of_nodup written.distinct alsoWritten.distinct).mpr
    intro key
    rw [written.keys, alsoWritten.keys]
  have sameKeys : Keyed.keys kept = Keyed.keys other := by
    apply List.Perm.eq_of_pairwise _ written.order alsoWritten.order samePlaces
    intro earlier later _ _ below above
    exact absurd above below.asymm
  apply eq_of_same_keys written.distinct sameKeys
  intro key
  rw [written.latest, alsoWritten.latest]

theorem lastWritten_iff {kept : Keyed Value Key} :
    LastWritten pairs kept ↔ kept = ofPairs pairs := by
  constructor
  · intro written
    exact written.unique (lastWritten_ofPairs pairs)
  · rintro rfl
    exact lastWritten_ofPairs pairs

section Converting

variable {Result : Type} (convert : Value → Result)

theorem put_map (key : Key) (value : Value) (entries : Keyed Value Key) :
    put key (convert value) (entries.map fun entry => (entry.1, convert entry.2)) =
      (put key value entries).map fun entry => (entry.1, convert entry.2) := by
  induction entries with
  | nil => rfl
  | cons entry rest induction =>
      by_cases same : entry.1 = key
      · simp [put, same]
      · simp [put, same, induction]

/-- Values may be converted before they are written or afterwards. -/
theorem ofPairs_map (pairs : List (Key × Value)) :
    ofPairs (pairs.map fun pair => (pair.1, convert pair.2)) =
      (ofPairs pairs).map fun entry => (entry.1, convert entry.2) := by
  induction pairs using List.reverseRecOn with
  | nil => rfl
  | append_singleton pairs pair induction =>
      rw [List.map_append, List.map_singleton, ofPairs_concat, ofPairs_concat, induction]
      exact put_map convert pair.1 pair.2 (ofPairs pairs)

end Converting

end Writing

section Sorting

variable {Value : Type}

/-- Sorting things with distinct names by their names puts the names in byte order. -/
theorem mergeSort_rising {Item : Type} (name : Item → String) (items : List Item)
    (distinct : (items.map name).Nodup) :
    (items.mergeSort fun left right => decide (name left ≤ name right)).Pairwise
      fun left right => Text.ByteLess (name left) (name right) := by
  have ordered : (items.mergeSort fun left right => decide (name left ≤ name right)).Pairwise
      fun left right => decide (name left ≤ name right) = true := by
    apply List.pairwise_mergeSort
    · intro first second third below next
      simp only [decide_eq_true_eq] at below next ⊢
      exact le_trans below next
    · intro left right
      simpa using le_total (name left) (name right)
  have apart : (items.mergeSort fun left right => decide (name left ≤ name right)).Pairwise
      fun left right => name left ≠ name right :=
    List.pairwise_map.mp (((List.mergeSort_perm items _).map name).nodup_iff.mpr distinct)
  refine ordered.imp₂ (fun left right below differs => ?_) apart
  rw [Text.byte_less_iff]
  exact lt_of_le_of_ne (by simpa using below) differs

theorem sorted_perm (entries : Keyed Value) : (sorted entries).Perm entries :=
  List.mergeSort_perm entries _

theorem distinct_sorted {entries : Keyed Value} (distinct : Distinct entries) :
    Distinct (sorted entries) := ((sorted_perm entries).map Prod.fst).nodup_iff.mpr distinct

theorem get?_sorted (key : String) {entries : Keyed Value} (distinct : Distinct entries) :
    get? key (sorted entries) = get? key entries :=
  get?_of_perm key (distinct_sorted distinct) (sorted_perm entries)

theorem keys_sorted_rising {entries : Keyed Value} (distinct : Distinct entries) :
    (keys (sorted entries)).Pairwise Text.ByteLess :=
  List.pairwise_map.mpr (mergeSort_rising Prod.fst entries distinct)

end Sorting

end MessageCatalog.Keyed
