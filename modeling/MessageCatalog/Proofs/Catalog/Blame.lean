import MessageCatalog.Proofs.Catalog.EntryPoints
import MessageCatalog.Proofs.Catalog.WireForm
import MessageCatalog.Proofs.Insert.Overlay

/-!
Whom an insert error blames. The error for a key that does not fit names the insert but not its
owner, and the inserts of the entry are compiled with those of the caller. So such errors are the
caller's doing only where all keys of the entry fit; all other errors come about without any inserts
too.
-/

namespace MessageCatalog

/-- What a caller hands over: values, or documents still to be read. -/
inductive CallerInserts where
  | values (named : NamedInserts) (positional : PositionalInserts)
  | documents (named positional : Option Json)

/-- The same kind of call with nothing handed over. -/
def CallerInserts.dropped : CallerInserts → CallerInserts
  | values _ _ => values .empty []
  | documents _ _ => documents none none

namespace Library

open Template

def FailsOnInserts (outcome : Except CatalogError Message) : Prop :=
  ∃ cause, outcome = .error cause ∧ cause.isInsertError = true

theorem not_isInsertError_of_isLookup {cause : CatalogError} (isLookup : cause.IsLookup) :
    cause.isInsertError = false := by
  cases cause with
  | inserts _ => cases isLookup
  | _ => rfl

section Blame

variable [KeySize] {library : Library} {catalog code : String} {locale : Option String}
    {verbose : Bool}

def resolveFor (library : Library) (catalog code : String) (locale : Option String)
    (verbose : Bool) :
    CallerInserts → Except CatalogError Message
  | .values named positional => library.resolve ⟨catalog, code, named, positional, locale, verbose⟩
  | .documents named positional => library.resolveRaw catalog code named positional locale verbose

/-- All keys of the entry that is found fit, or it has no text to compile inserts for. -/
def OwnKeysFit (library : Library) (catalog code : String) (locale : Option String) : Prop :=
  ∀ entry own, library.lookup catalog code locale = .ok entry → entry.message.getD "" ≠ "" →
    entry.namedInserts = some own → ∀ key ∈ own.keys, KeySize.fits key.toList = true

section Answer

variable {request : Request} {entry : Entry}

theorem failsOnInserts_answer_iff : FailsOnInserts (answer request entry) ↔
    entry.message.getD "" ≠ "" ∧
      oversized? (context entry request.named) request.positional ≠ none := by
  unfold answer
  by_cases empty : entry.message.getD "" = ""
  · simp [FailsOnInserts, empty, CatalogError.isInsertError]
  · cases oversized? (context entry request.named) request.positional <;>
      simp [FailsOnInserts, empty, CatalogError.isInsertError]

theorem answer_other_error {cause : CatalogError} (failed : answer request entry = .error cause)
    (other : cause.isInsertError = false) :
    entry.message.getD "" = "" ∧ cause = .messageWithoutText request.code request.catalog := by
  unfold answer at failed
  split at failed
  · next empty =>
      cases failed
      exact ⟨empty, rfl⟩
  · split at failed
    · cases failed
      cases other
    · cases failed

/-- Without a caller only the entry's own keys are compiled. -/
theorem oversized?_own : oversized? (context entry .empty) [] = none ↔
    ∀ own, entry.namedInserts = some own → ∀ key ∈ own.keys, KeySize.fits key.toList = true := by
  rw [oversized?_eq_none_iff, context]
  cases entry.namedInserts with
  | none => simp [NamedInserts.empty, NamedInserts.keys, Keyed.keys]
  | some own => simp [NamedInserts.empty_overlay]

/-- A caller's key that does not fit is noticed whatever inserts the entry has. -/
theorem failsOnInserts_of_handed {key : String} (full : entry.message.getD "" ≠ "")
    (handed : key ∈ request.named.keys) (unfit : ¬ KeySize.fits key.toList = true) :
    FailsOnInserts (answer request entry) := by
  have kept : key ∈ (context entry request.named).keys := by
    unfold context
    split
    · rw [NamedInserts.keys_overlay]
      exact List.mem_append_left _ handed
    · exact handed
  apply failsOnInserts_answer_iff.mpr
  constructor
  · exact full
  · intro compiled
    exact unfit (((oversized?_eq_none_iff _ _).mp compiled).2 key kept)

end Answer

theorem resolveFor_of_unfound {cause : CatalogError}
    (failed : library.lookup catalog code locale = .error cause) (inserts : CallerInserts) :
    library.resolveFor catalog code locale verbose inserts = .error cause := by
  cases inserts with
  | values named positional => exact resolve_of_unfound failed
  | documents named positional => exact resolveRaw_of_unfound failed named positional verbose

/-- With an entry, either documents of a wrong shape are refused or the entry answers. -/
theorem resolveFor_of_found {entry : Entry}
    (looked : library.lookup catalog code locale = .ok entry) (inserts : CallerInserts) :
    (∃ side,
      library.resolveFor catalog code locale verbose inserts = .error (.inserts (.shape side))) ∨
    ∃ named positional, library.resolveFor catalog code locale verbose inserts =
      answer ⟨catalog, code, named, positional, locale, verbose⟩ entry := by
  cases inserts with
  | values named positional => exact .inr ⟨named, positional, resolve_of_found looked⟩
  | documents named positional =>
      rw [resolveFor, resolveRaw_of_found looked]
      cases NamedInserts.ofRaw named with
      | error failure => exact .inl ⟨.named, rfl⟩
      | ok given =>
          cases PositionalInserts.ofRaw positional with
          | error failure => exact .inl ⟨.positional, rfl⟩
          | ok listed => exact .inr ⟨given, listed, resolve_of_found looked⟩

theorem resolveFor_dropped {entry : Entry} (looked : library.lookup catalog code locale = .ok entry)
    (inserts : CallerInserts) : library.resolveFor catalog code locale verbose inserts.dropped =
      answer ⟨catalog, code, .empty, [], locale, verbose⟩ entry := by
  cases inserts with
  | values named positional => exact resolve_of_found looked
  | documents named positional =>
      exact (resolveRaw_of_found looked none none verbose).trans (resolve_of_found looked)

theorem failsOnInserts_dropped_iff (inserts : CallerInserts) :
    ¬ FailsOnInserts (library.resolveFor catalog code locale verbose inserts.dropped) ↔
      library.OwnKeysFit catalog code locale := by
  cases looked : library.lookup catalog code locale with
  | error cause =>
      rw [resolveFor_of_unfound looked]
      have isLookup := not_isInsertError_of_isLookup (lookup_error_isLookup looked)
      simp [FailsOnInserts, isLookup, OwnKeysFit, looked]
  | ok entry =>
      rw [resolveFor_dropped looked, failsOnInserts_answer_iff]
      simp only [OwnKeysFit, looked, Except.ok.injEq, not_and, not_not, oversized?_own]
      constructor
      · intro ownFit found own same full
        subst same
        exact ownFit full own
      · intro ownFit full own
        exact ownFit entry own rfl full

/-- An insert error is the caller's doing exactly where the keys of the entry fit, and errors of any
other kind have nothing to do with the caller's inserts. -/
theorem insert_errors_blame_caller_iff (library : Library) (catalog code : String)
    (locale : Option String) (verbose : Bool) :
    ((∀ inserts : CallerInserts,
        FailsOnInserts (library.resolveFor catalog code locale verbose inserts) →
          ¬ FailsOnInserts (library.resolveFor catalog code locale verbose inserts.dropped)) ↔
      library.OwnKeysFit catalog code locale) ∧
    ∀ (inserts : CallerInserts) (cause : CatalogError),
      library.resolveFor catalog code locale verbose inserts = .error cause →
        cause.isInsertError = false →
        library.resolveFor catalog code locale verbose inserts.dropped = .error cause := by
  constructor
  · constructor
    · intro blamed
      rw [← failsOnInserts_dropped_iff (.values .empty [])]
      intro fails
      exact blamed (.values .empty []) fails fails
    · intro fits inserts _
      exact (failsOnInserts_dropped_iff inserts).mpr fits
  · intro inserts cause failed other
    cases looked : library.lookup catalog code locale with
    | error unfound =>
        rw [resolveFor_of_unfound looked] at failed ⊢
        exact failed
    | ok entry =>
        obtain ⟨side, refused⟩ | ⟨named, positional, answered⟩ := resolveFor_of_found looked inserts
        · rw [refused] at failed
          cases failed
          cases other
        · rw [answered] at failed
          obtain ⟨empty, rfl⟩ := answer_other_error failed other
          rw [resolveFor_dropped looked, answer, if_pos empty]

end Blame

section Keyed

/-- An entry with an insert of its own under `key`. -/
def keyedEntry (key : String) : Entry :=
  ⟨some "a", none, none, some (.ofPairs [(key, .text "v")]), none, []⟩

def keyedDocument (key : String) : Json :=
  .object [("en", .object [("X", (keyedEntry key).toJson)])]

def keyedLibrary (key : String) : Library :=
  ⟨"index.json", [("c", .here "file://c.json")], [(⟨"c", "en"⟩, [("X", keyedEntry key)])]⟩

theorem writable_keyedEntry (key : String) :
    Entry.Writable (keyedEntry key).namedInserts (keyedEntry key).extra where
  distinct := List.nodup_nil
  foreign := List.forall_mem_nil _
  extra := List.forall_mem_nil _
  inserts := by
    intro own given
    cases given
    exact List.forall_mem_singleton.mpr (.text "v")

theorem sound_keyedDocument (key : String) : (keyedDocument key).Sound := by
  have entry : (keyedEntry key).toJson.Sound :=
    (Entry.written (writable_keyedEntry key)).object_sound (by decide)
  have table : (Json.object [("X", (keyedEntry key).toJson)]).Sound :=
    .object (List.nodup_singleton _) (List.forall_mem_singleton.mpr entry)
  exact .object (List.nodup_singleton _) (List.forall_mem_singleton.mpr table)

theorem keyed?_single {Value : Type} (read : Node → Option Value) (name : String) (value : Json) :
    (Node.ofJson (.object [(name, value)])).keyed? read =
      (read (.ofJson value)).map fun value => [(name, value)] := by
  rw [Node.keyed?, Node.members?_ofJson]
  cases given : read (.ofJson value) <;>
    simp [Node.nodesOf, given, Keyed.ofPairs, Keyed.overlay, Keyed.put]

theorem written_keyedDocument (key : String) :
    (Node.ofText? .json .whole (keyedDocument key).wireText).bind decodeCatalog? =
      some [("en", [("X", keyedEntry key)])] := by
  have shallow : (Node.ofJson (keyedDocument key)).nestsWithin Json.depthLimit = true := rfl
  have entry := Entry.ofNode?_toJson (writable_keyedEntry key)
  rw [Node.ofText?, Json.readNode?_wireText (sound_keyedDocument key), if_pos shallow,
    Option.bind_some, decodeCatalog?, keyedDocument, keyed?_single, keyed?_single, entry,
    Option.map_some, Option.map_some]

theorem load_keyed (key : String) :
    load (oneCatalog (keyedDocument key).wireText) "index.json" = .ok (keyedLibrary key) :=
  load_oneCatalog (written_keyedDocument key) rfl

theorem lookup_keyed (key : String) :
    (keyedLibrary key).lookup "c" "X" none = .ok (keyedEntry key) := rfl

theorem ownKeysFit_keyed_iff [KeySize] (key : String) :
    (keyedLibrary key).OwnKeysFit "c" "X" none ↔ KeySize.fits key.toList = true := by
  have written : (keyedEntry key).message.getD "" ≠ "" := show "a" ≠ "" by decide
  constructor
  · intro ownFit
    exact ownFit _ _ (lookup_keyed key) written rfl key (List.mem_singleton_self key)
  · intro fits entry own looked _ given other member
    cases (lookup_keyed key).symm.trans looked
    cases given
    cases List.mem_singleton.mp member
    exact fits

def longKey (size : Nat) : String := .ofList (List.replicate size 'k')

theorem fits_longKey_iff (size : Nat) :
    KeySize.fits (longKey size).toList = true ↔ size ≤ keyLimit := by
  simp [KeySize.fits, longKey]

theorem insert_errors_blame_caller_iff_short_own_key :
    let inserts : CallerInserts := .values (.ofPairs [(longKey 12000, .text "v")]) []
    load (oneCatalog (keyedDocument "k").wireText) "index.json" = .ok (keyedLibrary "k") ∧
      FailsOnInserts ((keyedLibrary "k").resolveFor "c" "X" none false inserts) ∧
        ¬ FailsOnInserts ((keyedLibrary "k").resolveFor "c" "X" none false inserts.dropped) ∧
          (keyedLibrary "k").resolveFor "c" "Y" none false inserts.dropped =
            .error (.messageNotFound "Y" "c") := by
  intro inserts
  have fits : (keyedLibrary "k").OwnKeysFit "c" "X" none := (ownKeysFit_keyed_iff "k").mpr rfl
  have fails : FailsOnInserts ((keyedLibrary "k").resolveFor "c" "X" none false inserts) := by
    rw [resolveFor, resolve_of_found (lookup_keyed "k")]
    apply failsOnInserts_of_handed (by decide) (List.mem_singleton_self (longKey 12000))
    rw [fits_longKey_iff]
    decide
  have unfound : (keyedLibrary "k").resolveFor "c" "Y" none false inserts =
      .error (.messageNotFound "Y" "c") := rfl
  exact ⟨load_keyed "k", fails, (insert_errors_blame_caller_iff _ _ _ _ _).1.mpr fits inserts fails,
    (insert_errors_blame_caller_iff _ _ _ _ _).2 inserts _ unfound rfl⟩

/-- The error for a key of the entry is an insert error too, with nothing handed over at all. -/
theorem insert_errors_blame_caller_for_own_key :
    ¬ ∀ (tree : FileTree) (indexPath : String) (library : Library) (catalog code : String)
      (locale : Option String) (verbose : Bool) (inserts : CallerInserts),
      load tree indexPath = .ok library →
        FailsOnInserts (library.resolveFor catalog code locale verbose inserts) →
          ¬ FailsOnInserts (library.resolveFor catalog code locale verbose inserts.dropped) := by
  intro blamed
  have unfit : ¬ (keyedLibrary (longKey 12000)).OwnKeysFit "c" "X" none := by
    rw [ownKeysFit_keyed_iff, fits_longKey_iff]
    decide
  have fails :
      FailsOnInserts
        ((keyedLibrary (longKey 12000)).resolveFor "c" "X" none false (.values .empty [])) :=
    not_not.mp (mt (failsOnInserts_dropped_iff (.values .empty [])).mp unfit)
  exact blamed _ _ _ _ _ _ _ (.values .empty []) (load_keyed (longKey 12000)) fails fails

end Keyed

end Library

end MessageCatalog
