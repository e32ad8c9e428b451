import MessageCatalog.CodedError
import MessageCatalog.Proofs.Keyed
import MessageCatalog.Proofs.Outcome

/-!
Coded errors on the wire. Whatever calls an error was built with, its code and catalog are not
empty. So reading finds what was written and puts no default in its place, and as the code stands
under both of its names either of the two may be left out.
-/

namespace MessageCatalog.CodedError

/-- The errors that an application can hold. -/
inductive Built : CodedError → Prop where
  | make (code catalog message : String) (named : NamedInserts) (positional : PositionalInserts) :
      Built (.make code catalog message named positional)
  | simple (code catalog message : String) : Built (.simple code catalog message)
  | withNamed {error : CodedError} (named : NamedInserts) (built : Built error) :
      Built (error.withNamed named)
  | withPositional {error : CodedError} (positional : PositionalInserts) (built : Built error) :
      Built (error.withPositional positional)
  | ofPayload {payload : Json} {error : CodedError} (success : ofPayload payload = .ok error) :
      Built error

def Named (error : CodedError) : Prop := error.code ≠ "" ∧ error.catalog ≠ ""

theorem orDefault_of_ne_empty {name : String} (given : name ≠ "") : orDefault name = name := by
  simp [orDefault, given]

theorem make_of_named {error : CodedError} (named : Named error) :
    make error.code error.catalog error.message error.named error.positional = error := by
  rw [make, orDefault_of_ne_empty named.1, orDefault_of_ne_empty named.2]

theorem ofPayload_ok_iff {payload : Json} {error : CodedError} :
    ofPayload payload = .ok error ↔
      ∃ named positional, NamedInserts.ofRaw (payload.member? "namedInserts") = .ok named ∧
        PositionalInserts.ofRaw (rawPositional payload) = .ok positional ∧
        make (((textOf? "messageCode" payload).or (textOf? "messageNumber" payload)).getD "")
          ((textOf? "catalog" payload).getD "") ((textOf? "message" payload).getD "") named
            positional = error := by
  rw [ofPayload, Outcome.bind_ok_iff]
  simp only [Outcome.bind_ok_iff, Except.ok.injEq, Option.orElse_eq_or]
  constructor
  · rintro ⟨named, namedRead, positional, positionalRead, built⟩
    exact ⟨named, positional, namedRead, positionalRead, built⟩
  · rintro ⟨named, positional, namedRead, positionalRead, built⟩
    exact ⟨named, namedRead, positional, positionalRead, built⟩

/-- Reading looks at these parts of a payload only. -/
theorem ofPayload_congr {left right : Json}
    (code : (textOf? "messageCode" left).or (textOf? "messageNumber" left) =
      (textOf? "messageCode" right).or (textOf? "messageNumber" right))
    (catalog : textOf? "catalog" left = textOf? "catalog" right)
    (message : textOf? "message" left = textOf? "message" right)
    (named : left.member? "namedInserts" = right.member? "namedInserts")
    (positional : PositionalInserts.ofRaw (rawPositional left) =
      PositionalInserts.ofRaw (rawPositional right)) :
    ofPayload left = ofPayload right := by
  simp only [ofPayload, Option.orElse_eq_or]
  rw [code, catalog, message, named, positional]

theorem named_of_built {error : CodedError} (built : Built error) : Named error := by
  induction built with
  | make code catalog message named positional => exact make_code_ne_empty ..
  | simple code catalog message => exact make_code_ne_empty ..
  | withNamed named built induction => exact induction
  | withPositional positional built induction => exact induction
  | ofPayload success =>
      obtain ⟨named, positional, _, _, rfl⟩ := ofPayload_ok_iff.mp success
      exact make_code_ne_empty ..

/-- A payload that tells an error in full, its code under at least one of the two names. -/
structure Carries (payload : Json) (error : CodedError) : Prop where
  code : (textOf? "messageCode" payload).or (textOf? "messageNumber" payload) = some error.code
  catalog : textOf? "catalog" payload = some error.catalog
  message : textOf? "message" payload = some error.message
  named : payload.member? "namedInserts" = some error.named.toJson
  positional :
    payload.member? "positionalInserts" = some (PositionalInserts.toJson error.positional)

theorem ofPayload_of_carries {payload : Json} {error : CodedError} (named : Named error)
    (carried : Carries payload error) : ofPayload payload = .ok error := by
  have positional : rawPositional payload = some (PositionalInserts.toJson error.positional) := by
    rw [rawPositional, carried.positional, PositionalInserts.toJson]
  rw [ofPayload_ok_iff]
  refine ⟨error.named, error.positional, ?_, ?_, ?_⟩
  · rw [carried.named]
    exact NamedInserts.ofRaw_toJson error.named
  · rw [positional]
    exact PositionalInserts.ofRaw_toJson error.positional
  · rw [carried.code, carried.catalog, carried.message]
    exact make_of_named named

theorem carries_toJson (error : CodedError) : Carries error.toJson error where
  code := rfl
  catalog := rfl
  message := rfl
  named := rfl
  positional := rfl

theorem looksCoded_toJson (error : CodedError) : looksCoded error.toJson = true := rfl

theorem distinct_members (error : CodedError) : Keyed.Distinct error.members := by
  simp [members, Keyed.Distinct, Keyed.keys]

/-- Leaving a member out, in whatever order the others then stand, changes no other member. -/
theorem member?_without {error : CodedError} {field : String} {rest : List (String × Json)}
    (others : rest.Perm (error.members.filter fun member => member.1 ≠ field)) (key : String) :
    (Json.object rest).member? key = if key = field then none else error.toJson.member? key := by
  have kept := Keyed.get?_of_perm key
    (Keyed.distinct_filter (distinct_members error) fun member => member.1 ≠ field) others.symm
  simp only [Json.member?, toJson]
  rw [← kept]
  split
  · next same => rw [same, Keyed.get?_filter_self]
  · next differs => rw [Keyed.get?_filter_of_ne error.members differs]

theorem carries_without {error : CodedError} {field : String} {rest : List (String × Json)}
    (codeName : field ∈ ["messageCode", "messageNumber"])
    (others : rest.Perm (error.members.filter fun member => member.1 ≠ field)) :
    Carries (.object rest) error := by
  have whole := carries_toJson error
  have member := member?_without others
  simp only [List.mem_cons, List.not_mem_nil, or_false] at codeName
  constructor
  · rw [textOf?, textOf?, member, member]
    rcases codeName with rfl | rfl <;> rfl
  · rw [textOf?, member, if_neg (by rcases codeName with rfl | rfl <;> decide)]
    exact whole.catalog
  · rw [textOf?, member, if_neg (by rcases codeName with rfl | rfl <;> decide)]
    exact whole.message
  · rw [member, if_neg (by rcases codeName with rfl | rfl <;> decide)]
    exact whole.named
  · rw [member, if_neg (by rcases codeName with rfl | rfl <;> decide)]
    exact whole.positional

/-- What is written of an error reads back as that error, also with one of the two names of its code
taken out, and it is taken for a coded error. So writing and reading again changes nothing that was
read. -/
theorem built_reads_back (error : CodedError) (built : Built error) :
    ofPayload error.toJson = .ok error ∧ looksCoded error.toJson = true ∧
      (∀ field ∈ ["messageCode", "messageNumber"], ∀ rest : List (String × Json),
        rest.Perm (error.members.filter fun member => member.1 ≠ field) →
          ofPayload (.object rest) = ofPayload error.toJson) ∧
      ∀ (payload : Json) (first : CodedError), ofPayload payload = .ok first →
        ofPayload first.toJson = ofPayload payload := by
  have reads : ∀ written, Built written → ofPayload written.toJson = .ok written := by
    intro written building
    exact ofPayload_of_carries (named_of_built building) (carries_toJson written)
  refine ⟨reads error built, looksCoded_toJson error, ?_, ?_⟩
  · intro field codeName rest others
    rw [reads error built]
    exact ofPayload_of_carries (named_of_built built) (carries_without codeName others)
  · intro payload first success
    rw [success]
    exact reads first (.ofPayload success)

/-- An error given neither code nor catalog, read back after the first member was taken out and the
last one moved into its place. -/
theorem built_reads_back_default_names :
    let error := ((simple "" "" "").withNamed
      (.ofPairs [("b", .absent), ("a", .list [.null])])).withPositional [.boolean true]
    Built error ∧
      ofPayload (.object [("positionalInserts", .array [.boolean true]),
        ("messageNumber", .text "DEFAULT"), ("catalog", .text "DEFAULT"), ("message", .text ""),
        ("namedInserts", .object [("b", .null), ("a", .array [.null])])]) = .ok error := by
  intro error
  have built : Built error := .withPositional _ (.withNamed _ (.simple "" "" ""))
  have round := built_reads_back error built
  have others := Keyed.swapRemove_perm "messageCode" error.members (distinct_members error)
  exact ⟨built, (round.2.2.1 "messageCode" (by simp) _ others).trans round.1⟩

end MessageCatalog.CodedError
