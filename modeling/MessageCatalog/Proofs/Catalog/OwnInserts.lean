import MessageCatalog.Proofs.Catalog.Documents
import MessageCatalog.Proofs.Insert.Overlay
import MessageCatalog.Proofs.Template.Expansion

/-!
The inserts of an entry against those of the caller. Merging compares keys exactly and leaves a
shared key in the caller's place, while a slot takes the first key that is the same text but for
case. So an insert of the entry is put in unless the caller has a case variant of its key standing
before it.
-/

namespace MessageCatalog

open Text Template

def Insert.Plain (value : Insert) : Prop := BraceFree value.plainText.toList

instance (value : Insert) : Decidable value.Plain :=
  inferInstanceAs (Decidable (BraceFree value.plainText.toList))

namespace NamedInserts

/-- No braces in the keys, nor in what the values look like. -/
structure Plain (inserts : NamedInserts) : Prop where
  keys : ∀ key ∈ inserts.keys, BraceFree key.toList
  values : ∀ entry ∈ inserts.entries, entry.2.Plain

/-- No two keys differ by case only. -/
def Apart (inserts : NamedInserts) : Prop :=
  ∀ left ∈ inserts.keys, ∀ right ∈ inserts.keys, SameText left.toList right.toList → left = right

instance (inserts : NamedInserts) : Decidable inserts.Apart :=
  inferInstanceAs (Decidable (∀ left ∈ inserts.keys, ∀ right ∈ inserts.keys,
    SameText left.toList right.toList → left = right))

/-- The key that a slot takes its value from. -/
def slotKey? (inserts : NamedInserts) (name : List Char) : Option String :=
  inserts.keys.find? fun key => sameText key.toList name

/-- What a slot is filled with. -/
def slotText (inserts : NamedInserts) (name : List Char) : List Char :=
  fillSlot (rulesOf inserts []) name

/-- If a slot named `key` takes any of these keys, then `key` itself. -/
def YieldsTo (inserts : NamedInserts) (key : String) : Prop :=
  ∀ first, inserts.slotKey? key.toList = some first → first = key

variable {inserts caller own : NamedInserts}

theorem plain_overlay (lower : caller.Plain) (upper : own.Plain) : (caller.overlay own).Plain where
  keys key member := by
    rw [keys_overlay, List.mem_append, List.mem_filter] at member
    rcases member with below | above
    · exact lower.keys key below
    · exact upper.keys key above.1
  values := Keyed.forall_overlay lower.values upper.values

theorem slotKey?_congr {name other : List Char} (same : SameText name other) :
    inserts.slotKey? name = inserts.slotKey? other := by
  unfold slotKey?
  congr 1
  funext key
  rw [sameText, sameText, same]

theorem slotKey?_sound {name : List Char} {first : String}
    (found : inserts.slotKey? name = some first) :
    first ∈ inserts.keys ∧ SameText first.toList name := by
  unfold slotKey? at found
  have accepted := List.find?_some found
  exact ⟨List.mem_of_find?_eq_some found, (sameText_iff _ _).mp accepted⟩

/-- In a merged set a slot takes a key of the caller where it can. -/
theorem slotKey?_overlay (lower upper : NamedInserts) (name : List Char) :
    (lower.overlay upper).slotKey? name = (lower.slotKey? name).or (upper.slotKey? name) := by
  unfold slotKey?
  rw [keys_overlay, List.find?_append]
  cases taken : lower.keys.find? fun key => sameText key.toList name with
  | some key => rfl
  | none =>
      rw [Option.none_or, Option.none_or, List.find?_filter]
      congr 1
      funext key
      -- a key of the caller does not match, so it does not matter that it is left out
      by_cases below : key ∈ lower.keys
      · have differs := List.find?_eq_none.mp taken key below
        simp [below, differs]
      · simp [below]

theorem slotKey?_of_apart (apart : inserts.Apart) {key : String} (member : key ∈ inserts.keys) :
    inserts.slotKey? key.toList = some key := by
  have some_key : (inserts.slotKey? key.toList).isSome := by
    unfold slotKey?
    rw [List.find?_isSome]
    exact ⟨key, member, (sameText_iff _ _).mpr (SameText.refl _)⟩
  obtain ⟨first, found⟩ := Option.isSome_iff_exists.mp some_key
  obtain ⟨inside, same⟩ := slotKey?_sound found
  rw [found, apart first inside key member same]

theorem slotKey?_of_yieldsTo (apart : own.Apart) {key : String} (member : key ∈ own.keys)
    (yields : caller.YieldsTo key) : (caller.overlay own).slotKey? key.toList = some key := by
  rw [slotKey?_overlay, slotKey?_of_apart apart member]
  cases taken : caller.slotKey? key.toList with
  | none => rfl
  | some first => rw [yields first taken, Option.some_or]

theorem slotText_eq (plain : inserts.Plain) (name : List Char) :
    inserts.slotText name =
      (((inserts.slotKey? name).bind inserts.get?).map fun value => value.plainText.toList).getD
        (braced name) := by
  have free : ∀ rule ∈ rulesOf inserts [], BraceFree rule.value := by
    intro rule member
    obtain ⟨entry, inside, rfl⟩ :
        ∃ entry ∈ inserts.entries, ⟨entry.1.toList, entry.2.plainText.toList⟩ = rule := by
      simpa [rulesOf] using member
    exact plain.values entry inside
  have searched := Keyed.find?_by_key (fun key => sameText key.toList name) inserts.entries
  rw [slotText, fill_slot_of_braceFree _ free]
  congr 1
  simp only [rulesOf, List.mapIdx_nil, List.nil_append, List.find?_map, Function.comp_def,
    Option.map_map, searched, slotKey?, keys, Option.map_bind]
  rfl

theorem slotText_overlay (lower : caller.Plain) (upper : own.Plain) (apart : own.Apart)
    {key : String} {value : Insert} (present : own.get? key = some value) {name : List Char}
    (same : SameText key.toList name) (yields : caller.YieldsTo key) :
    (caller.overlay own).slotText name = value.plainText.toList := by
  have member : key ∈ own.keys := (Keyed.mem_keys_iff key own.entries).mpr ⟨value, present⟩
  have merged : (caller.overlay own).get? key = some value := by
    rw [get?_overlay, present, Option.some_or]
  rw [slotText_eq (plain_overlay lower upper), ← slotKey?_congr same,
    slotKey?_of_yieldsTo apart member yields, Option.bind_some, merged]
  rfl

end NamedInserts

namespace Library

/-- The entry has this text and these inserts, and only the slots of the text hold braces. -/
structure Declares (entry : Entry) (text : String) (own : NamedInserts) : Prop where
  message : entry.message = some text
  inserts : entry.namedInserts = some own
  flat : Flat text.toList
  plain : own.Plain
  apart : own.Apart

section Prevailing

variable [KeySize] {library : Library} {catalog code text : String} {locale : Option String}
    {entry : Entry} {own : NamedInserts}

theorem message_eq_expandWith (found : library.lookup catalog code locale = .ok entry)
    (declares : Declares entry text own) {caller : NamedInserts} (plain : caller.Plain)
    {verbose : Bool} {message : Message}
    (resolved : library.resolve ⟨catalog, code, caller, [], locale, verbose⟩ = .ok message) :
    message.message.toList = expandWith (caller.overlay own).slotText text.toList := by
  have merged : context entry caller = caller.overlay own := by rw [context, declares.inserts]
  have mergedPlain := NamedInserts.plain_overlay plain declares.plain
  have flat : FlatInserts (caller.overlay own) [] :=
    ⟨mergedPlain.keys,
      fun entry inside => flat_of_braceFree (mergedPlain.values entry inside), by simp⟩
  rw [resolve_of_found found] at resolved
  rw [message_of_answer resolved, merged, declares.message, rules_of_placed, Option.getD_some,
    Substitution.render, String.toList_ofList, apply_of_flat _ flat.clean_rules _ declares.flat]
  rfl

/-- A slot under a key of the entry gets the value of the entry, unless the first key of the caller
for this slot is a case variant. -/
theorem own_inserts_prevail (found : library.lookup catalog code locale = .ok entry)
    (declares : Declares entry text own) :
    (∀ (caller : NamedInserts) (verbose : Bool) (message : Message), caller.Plain →
      library.resolve ⟨catalog, code, caller, [], locale, verbose⟩ = .ok message →
        message.message.toList = expandWith (context entry caller).slotText text.toList ∧
          ∀ key value name,
            own.get? key = some value → SameText key.toList name → caller.YieldsTo key →
              (context entry caller).slotText name = value.plainText.toList) ∧
      ∀ left right : NamedInserts, left.Plain → right.Plain →
        ∀ key ∈ own.keys, ∀ name,
          SameText key.toList name → left.YieldsTo key → right.YieldsTo key →
            (context entry left).slotText name = (context entry right).slotText name := by
  have merged : ∀ caller, context entry caller = caller.overlay own := by
    intro caller
    rw [context, declares.inserts]
  constructor
  · intro caller verbose message plain resolved
    rw [merged]
    refine ⟨message_eq_expandWith found declares plain resolved, ?_⟩
    intro key value name present same yields
    exact NamedInserts.slotText_overlay plain declares.plain declares.apart present same yields
  · intro left right leftPlain rightPlain key member name same leftYields rightYields
    obtain ⟨value, present⟩ := (Keyed.mem_keys_iff key own.entries).mp member
    rw [merged, merged,
      NamedInserts.slotText_overlay leftPlain declares.plain declares.apart present same leftYields,
      NamedInserts.slotText_overlay rightPlain declares.plain declares.apart present same
        rightYields]

end Prevailing

section Identifier

/-- A catalog with one text, which is a slot for an insert of its own. -/
def identifierContent : String :=
  "\x7b\"en\":\x7b\"X\":\x7b\"message\":\"\x7bid\x7d\",\"namedInserts\":\x7b\"id\":\"own\"\x7d\x7d\x7d\x7d"

def identifierEntry : Entry :=
  ⟨some "\x7bid\x7d", none, none, some (.ofPairs [("id", .text "own")]), none, []⟩

def identifierLibrary : Library :=
  ⟨"index.json", [("c", .here "file://c.json")], [(⟨"c", "en"⟩, [("X", identifierEntry)])]⟩

theorem load_identifier :
    load (oneCatalog identifierContent) "index.json" = .ok identifierLibrary := by
  have written : (Node.ofText? .json .whole identifierContent).bind decodeCatalog? =
      some [("en", [("X", identifierEntry)])] := by cbv
  exact load_oneCatalog written rfl

theorem lookup_identifier : identifierLibrary.lookup "c" "X" none = .ok identifierEntry := rfl

theorem declares_identifier :
    Declares identifierEntry "\x7bid\x7d" (.ofPairs [("id", .text "own")]) where
  message := rfl
  inserts := rfl
  flat := by decide +kernel
  plain := ⟨by decide +kernel, by decide +kernel⟩
  apart := by decide +kernel

theorem resolve_identifier {caller : NamedInserts}
    (fits : oversized? (context identifierEntry caller) [] = none) :
    identifierLibrary.resolve ⟨"c", "X", caller, [], none, false⟩ =
      .ok (fillIn identifierEntry "\x7bid\x7d"
        ((placedInserts (context identifierEntry caller) []).map Placed.rule) none) := by
  rw [resolve_of_found lookup_identifier]
  exact answer_of_fits (by decide +kernel) fits

theorem own_inserts_prevail_over_same_key :
    let caller : NamedInserts := .ofPairs [("id", .text "caller")]
    ∃ message, load (oneCatalog identifierContent) "index.json" = .ok identifierLibrary ∧
      identifierLibrary.resolve ⟨"c", "X", caller, [], none, false⟩ = .ok message ∧
        message.message = "own" ∧
        (context identifierEntry caller).slotText "ID".toList = "own".toList := by
  intro caller
  have plain : caller.Plain := ⟨by decide +kernel, by decide +kernel⟩
  have yields : caller.YieldsTo "id" := by
    intro first taken
    cases taken
    rfl
  have fits : oversized? (context identifierEntry caller) [] = none := rfl
  have resolved := resolve_identifier fits
  have prevails :=
    (own_inserts_prevail lookup_identifier declares_identifier).1 caller false _ plain resolved
  refine ⟨_, load_identifier, resolved, by decide +kernel, ?_⟩
  exact prevails.2 "id" (.text "own") "ID".toList rfl (by decide +kernel) yields

/-- A caller's key in capitals stays before the entry's own, and its value is put in. -/
theorem own_insert_behind_case_variant :
    let caller : NamedInserts := .ofPairs [("ID", .text "caller")]
    ∃ message, load (oneCatalog identifierContent) "index.json" = .ok identifierLibrary ∧
      identifierLibrary.lookup "c" "X" none = .ok identifierEntry ∧
        Declares identifierEntry "\x7bid\x7d" (.ofPairs [("id", .text "own")]) ∧ caller.Plain ∧
          identifierLibrary.resolve ⟨"c", "X", caller, [], none, false⟩ = .ok message ∧
            message.message = "caller" ∧
              (context identifierEntry caller).slotText "id".toList ≠ "own".toList := by
  intro caller
  have plain : caller.Plain := ⟨by decide +kernel, by decide +kernel⟩
  have fits : oversized? (context identifierEntry caller) [] = none := rfl
  have resolved := resolve_identifier fits
  exact ⟨_, load_identifier, lookup_identifier, declares_identifier, plain,
    resolved, by decide +kernel, by decide +kernel⟩

end Identifier

end Library

end MessageCatalog
