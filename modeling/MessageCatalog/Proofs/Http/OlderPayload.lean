import MessageCatalog.Proofs.CodedError
import MessageCatalog.Proofs.Http.Formatting

/-!
Payloads of older writers. An error whose code or positional inserts stand under the older names
decodes, and is handled as a response, like the same error under the current names. The two names
are missed in different ways: the older code counts where the current one is missing or no scalar,
the older inserts where the current ones are missing or null.
-/

namespace MessageCatalog

namespace Keyed

variable {Value Key : Type} [DecidableEq Key]

/-- The value of `old` under the name `new` instead, in place of what stood there. -/
def move (old new : Key) (entries : Keyed Value Key) : Keyed Value Key :=
  match get? old entries with
  | none => entries
  | some value => put new value (entries.filter fun entry => entry.1 ≠ old)

theorem distinct_move (old new : Key) {entries : Keyed Value Key} (distinct : Distinct entries) :
    Distinct (move old new entries) := by
  unfold move
  split
  · exact distinct
  · exact distinct_put _ _ _ (distinct_filter distinct _)

theorem move_of_none {old : Key} (new : Key) {entries : Keyed Value Key}
    (missing : get? old entries = none) :
    move old new entries = entries := by
  rw [move, missing]

variable {old new : Key} {entries : Keyed Value Key}

theorem get?_move_new (present : (get? old entries).isSome) :
    get? new (move old new entries) = get? old entries := by
  obtain ⟨value, found⟩ := Option.isSome_iff_exists.mp present
  simp only [move, found]
  exact get?_put_self new value _

theorem get?_move_old (differs : new ≠ old) : get? old (move old new entries) = none := by
  cases found : get? old entries with
  | none => rw [move_of_none new found, found]
  | some value =>
      simp only [move, found]
      rw [get?_put_of_ne new old value _ differs, get?_filter_self]

theorem get?_move_other {key : Key} (notOld : key ≠ old) (notNew : key ≠ new) :
    get? key (move old new entries) = get? key entries := by
  cases found : get? old entries with
  | none => rw [move_of_none new found]
  | some value =>
      simp only [move, found]
      rw [get?_put_of_ne new key value _ notNew.symm, get?_filter_of_ne entries notOld]

end Keyed

namespace CodedError

/-- The code under its current name, unless something stands there. -/
def currentCode (payload : Keyed Json) : Keyed Json :=
  if (payload.get? "messageCode").isNone then payload.move "messageNumber" "messageCode"
  else payload

/-- The positional inserts under their current name, unless something other than null stands
there. -/
def currentPositional (payload : Keyed Json) : Keyed Json :=
  if present "positionalInserts" (.object payload) then payload
  else payload.move "inserts" "positionalInserts"

def currentFields (payload : Keyed Json) : Keyed Json := currentPositional (currentCode payload)

/-- The payloads agree in all that is looked at, whatever names they use. -/
structure SameFields (left right : Json) : Prop where
  code : (textOf? "messageCode" left).or (textOf? "messageNumber" left) =
    (textOf? "messageCode" right).or (textOf? "messageNumber" right)
  codePresent : (present "messageCode" left || present "messageNumber" left) =
    (present "messageCode" right || present "messageNumber" right)
  catalog : left.member? "catalog" = right.member? "catalog"
  message : left.member? "message" = right.member? "message"
  named : left.member? "namedInserts" = right.member? "namedInserts"
  positional :
    PositionalInserts.ofRaw (rawPositional left) = PositionalInserts.ofRaw (rawPositional right)

namespace SameFields

variable {left right : Json}

theorem ofPayload_eq (same : SameFields left right) : ofPayload left = ofPayload right := by
  apply ofPayload_congr same.code
  · rw [textOf?, textOf?, same.catalog]
  · rw [textOf?, textOf?, same.message]
  · exact same.named
  · exact same.positional

theorem looksCoded_eq (same : SameFields left right) : looksCoded left = looksCoded right := by
  have catalog : present "catalog" left = present "catalog" right := by
    rw [present, present, same.catalog]
  rw [looksCoded, looksCoded, same.codePresent, catalog]

theorem trans {third : Json} (same : SameFields left right) (next : SameFields right third) :
    SameFields left third where
  code := same.code.trans next.code
  codePresent := same.codePresent.trans next.codePresent
  catalog := same.catalog.trans next.catalog
  message := same.message.trans next.message
  named := same.named.trans next.named
  positional := same.positional.trans next.positional

/-- All that is looked at in a payload. -/
def lookedAt : List String :=
  ["messageCode", "messageNumber", "catalog", "message", "namedInserts", "positionalInserts",
    "inserts"]

theorem of_lookedAt {left right : Keyed Json}
    (same : ∀ field ∈ lookedAt, left.get? field = right.get? field) :
    SameFields (.object left) (.object right) := by
  have member : ∀ field ∈ lookedAt,
      (Json.object left).member? field = (Json.object right).member? field := same
  exact {
    code := by
      simp only [textOf?, member "messageCode" (by decide), member "messageNumber" (by decide)]
    codePresent := by
      simp only [present, member "messageCode" (by decide), member "messageNumber" (by decide)]
    catalog := member _ (by decide)
    message := member _ (by decide)
    named := member _ (by decide)
    positional := by
      simp only [rawPositional, member "positionalInserts" (by decide),
        member "inserts" (by decide)] }

/-- Only the members themselves count, not what else is in the payload or how it is ordered. -/
theorem of_members {left right : Keyed Json} (same : ∀ field, left.get? field = right.get? field) :
    SameFields (.object left) (.object right) := of_lookedAt fun field _ => same field

end SameFields

theorem distinct_currentFields {payload : Keyed Json} (distinct : Keyed.Distinct payload) :
    Keyed.Distinct (currentFields payload) := by
  have code : Keyed.Distinct (currentCode payload) := by
    unfold currentCode
    split
    · exact Keyed.distinct_move _ _ distinct
    · exact distinct
  unfold currentFields currentPositional
  split
  · exact code
  · exact Keyed.distinct_move _ _ code

theorem sameFields_currentCode (payload : Keyed Json) :
    SameFields (.object (currentCode payload)) (.object payload) := by
  unfold currentCode
  split
  · next missing =>
      have noCode : payload.get? "messageCode" = none := Option.isNone_iff_eq_none.mp missing
      cases older : payload.get? "messageNumber" with
      | none =>
          rw [Keyed.move_of_none _ older]
          exact .of_members fun _ => rfl
      | some value =>
          have moved : Keyed.get? "messageCode" (payload.move "messageNumber" "messageCode") =
              some value := by
            rw [Keyed.get?_move_new (by rw [older]; rfl), older]
          have gone :
              Keyed.get? "messageNumber" (payload.move "messageNumber" "messageCode") = none :=
            Keyed.get?_move_old (by decide)
          constructor
          · simp [textOf?, Json.member?, noCode, older, moved, gone]
          · simp [present, Json.member?, noCode, older, moved, gone]
          · exact Keyed.get?_move_other (by decide) (by decide)
          · exact Keyed.get?_move_other (by decide) (by decide)
          · exact Keyed.get?_move_other (by decide) (by decide)
          · simp only [rawPositional, Json.member?]
            rw [Keyed.get?_move_other (by decide) (by decide),
              Keyed.get?_move_other (by decide) (by decide)]
  · exact .of_members fun _ => rfl

theorem rawPositional_of_not_present {payload : Json}
    (absent : present "positionalInserts" payload = false) :
    rawPositional payload = payload.member? "inserts" := by
  unfold rawPositional
  unfold present at absent
  cases current : payload.member? "positionalInserts" with
  | none => rfl
  | some value =>
      rw [current] at absent
      cases value with
      | null => rfl
      | _ => cases absent

/-- A value under the current name alone is read like one under the older name alone: where it is
null both mean that there are no inserts. -/
theorem ofRaw_of_current {payload : Json} (value : Json)
    (current : payload.member? "positionalInserts" = some value)
    (older : payload.member? "inserts" = none) :
    PositionalInserts.ofRaw (rawPositional payload) = PositionalInserts.ofRaw (some value) := by
  rw [rawPositional, current]
  cases value with
  | null =>
      rw [older]
      rfl
  | _ => rfl

theorem sameFields_currentPositional (payload : Keyed Json) :
    SameFields (.object (currentPositional payload)) (.object payload) := by
  unfold currentPositional
  split
  · exact .of_members fun _ => rfl
  · next absent =>
      have unset := rawPositional_of_not_present (Bool.eq_false_iff.mpr absent)
      cases older : payload.get? "inserts" with
      | none =>
          rw [Keyed.move_of_none _ older]
          exact .of_members fun _ => rfl
      | some value =>
          have moved : Keyed.get? "positionalInserts" (payload.move "inserts" "positionalInserts") =
              some value := by
            rw [Keyed.get?_move_new (by rw [older]; rfl), older]
          have gone : Keyed.get? "inserts" (payload.move "inserts" "positionalInserts") = none :=
            Keyed.get?_move_old (by decide)
          have others : ∀ field, field ≠ "inserts" → field ≠ "positionalInserts" →
              Keyed.get? field (payload.move "inserts" "positionalInserts") = payload.get? field :=
            fun field => Keyed.get?_move_other
          constructor
          · simp only [textOf?, Json.member?]
            rw [others _ (by decide) (by decide), others _ (by decide) (by decide)]
          · simp only [present, Json.member?]
            rw [others _ (by decide) (by decide), others _ (by decide) (by decide)]
          · exact others _ (by decide) (by decide)
          · exact others _ (by decide) (by decide)
          · exact others _ (by decide) (by decide)
          · have asCurrent : (Json.object (payload.move "inserts" "positionalInserts")).member?
                "positionalInserts" = some value := moved
            rw [ofRaw_of_current value asCurrent gone, unset, Json.member?, older]

theorem sameFields_of_current {payload current : Keyed Json} (distinct : Keyed.Distinct payload)
    (renewed : current.Perm (currentFields payload)) :
    SameFields (.object current) (.object payload) := by
  have reordered : ∀ field, current.get? field = (currentFields payload).get? field := by
    intro field
    exact (Keyed.get?_of_perm field (distinct_currentFields distinct) renewed.symm).symm
  apply SameFields.trans (.of_members reordered)
  exact (sameFields_currentPositional _).trans (sameFields_currentCode payload)

end CodedError

namespace Http

/-- An error response within the limit whose body is a JSON text of the object `payload`. -/
structure CarriesObject (formatter : Formatter) (response : Response) (content : ByteArray)
    (payload : Keyed Json) : Prop where
  inspected : formatter.inspects response = true
  delivered : response.body.read? = some content
  honest : ∀ bound, response.body.sizeBound? = some bound → content.size ≤ bound
  text : ∃ text, String.fromUTF8? content = some text ∧ Json.read? text = some (.object payload)

namespace CarriesObject

variable {formatter : Formatter} {response other : Response} {content otherContent : ByteArray}
  {payload otherPayload : Keyed Json}

theorem codedPayload?_eq (carried : CarriesObject formatter response content payload) :
    codedPayload? content =
      if CodedError.looksCoded (.object payload) then some payload else none := by
  obtain ⟨text, decoded, read⟩ := carried.text
  simp [codedPayload?, decoded, read]

variable [Template.KeySize]

theorem messageFor?_eq (formatter : Formatter)
    (same : CodedError.SameFields (.object otherPayload) (.object payload))
    (locale : Option String) :
    formatter.messageFor? otherPayload locale = formatter.messageFor? payload locale := by
  rw [Formatter.messageFor?, Formatter.messageFor?, same.ofPayload_eq]

theorem handled_alike (carried : CarriesObject formatter response content payload)
    (otherCarried : CarriesObject formatter other otherContent otherPayload)
    (same : CodedError.SameFields (.object otherPayload) (.object payload))
    (status : other.status = response.status)
    (headers : other.headers.remove "content-length" = response.headers.remove "content-length")
    (locale : Option String) :
    ∃ handling : Handling,
      handling.Gives formatter locale response content (formatter.format locale response) ∧
      handling.Gives formatter locale other otherContent (formatter.format locale other) ∧
      (handling = .resolved →
        formatter.format locale other = formatter.format locale response) := by
  have found := carried.codedPayload?_eq
  have otherFound := otherCarried.codedPayload?_eq
  rw [same.looksCoded_eq] at otherFound
  by_cases looks : CodedError.looksCoded (.object payload) = true
  · rw [if_pos looks] at found otherFound
    have coded := codedPayload?_eq_some_iff.mp found
    have otherCoded := codedPayload?_eq_some_iff.mp otherFound
    have outcomes := messageFor?_eq formatter same locale
    cases outcome : formatter.messageFor? payload locale with
    | some message =>
        rw [outcome] at outcomes
        refine ⟨.resolved, ?_, ?_, ?_⟩
        · exact Formatter.gives_resolved carried.delivered carried.honest carried.inspected
            coded outcome
        · exact Formatter.gives_resolved otherCarried.delivered otherCarried.honest
            otherCarried.inspected otherCoded outcomes
        · intro _
          have read :=
            Formatter.readWithin_of_inspects carried.delivered carried.honest carried.inspected
          have otherRead :=
            Formatter.readWithin_of_inspects otherCarried.delivered otherCarried.honest
              otherCarried.inspected
          rw [Formatter.format_of_payload carried.inspected read coded,
            Formatter.format_of_payload otherCarried.inspected otherRead otherCoded, outcome,
            outcomes]
          simp only [jsonResponse, status, headers]
    | none =>
        rw [outcome] at outcomes
        refine ⟨.refused, ?_, ?_, ?_⟩
        · exact Formatter.gives_refused carried.delivered carried.honest carried.inspected
            coded outcome
        · exact Formatter.gives_refused otherCarried.delivered otherCarried.honest
            otherCarried.inspected otherCoded outcomes
        · intro impossible
          cases impossible
  · rw [if_neg looks] at found otherFound
    have alone : formatter.LeavesAlone response content := Formatter.leavesAlone_of_uncoded found
    have otherAlone : formatter.LeavesAlone other otherContent :=
      Formatter.leavesAlone_of_uncoded otherFound
    refine ⟨.untouched, ⟨alone, ?_⟩, ⟨otherAlone, ?_⟩, ?_⟩
    · exact Formatter.format_of_leavesAlone carried.delivered carried.honest alone locale
    · exact Formatter.format_of_leavesAlone otherCarried.delivered otherCarried.honest
        otherAlone locale
    · intro impossible
      cases impossible

end CarriesObject

section Working

variable [Template.KeySize]

/-- The payload under the current names, its members in any order, decodes alike, is taken for a
coded error alike, and a response with it is handled in the same way as one with the payload as it
was; where that is a message, the answers are equal. -/
theorem current_fields_handled_alike (payload current : Keyed Json)
    (distinct : Keyed.Distinct payload)
    (renewed : current.Perm (CodedError.currentFields payload)) :
    CodedError.ofPayload (.object current) = CodedError.ofPayload (.object payload) ∧
      CodedError.looksCoded (.object current) = CodedError.looksCoded (.object payload) ∧
      ∀ (formatter : Formatter) (locale : Option String) (older newer : Response)
        (olderContent newerContent : ByteArray),
        CarriesObject formatter older olderContent payload →
        CarriesObject formatter newer newerContent current →
        newer.status = older.status →
        newer.headers.remove "content-length" = older.headers.remove "content-length" →
          ∃ handling : Handling,
            handling.Gives formatter locale older olderContent (formatter.format locale older) ∧
            handling.Gives formatter locale newer newerContent (formatter.format locale newer) ∧
            (handling = .resolved →
              formatter.format locale newer = formatter.format locale older) := by
  have same := CodedError.sameFields_of_current distinct renewed
  refine ⟨same.ofPayload_eq, same.looksCoded_eq, ?_⟩
  intro formatter locale older newer olderContent newerContent carried newerCarried status headers
  exact carried.handled_alike newerCarried same status headers locale

end Working

/-- The payload of an older writer that sets the current inserts to null. -/
def olderText : String :=
  "\x7b\"messageNumber\":1,\"catalog\":\"c\",\"inserts\":[\"a\"],\"positionalInserts\":null\x7d"

def newerText : String :=
  "\x7b\"positionalInserts\":[\"a\"],\"catalog\":\"c\",\"messageCode\":1\x7d"

theorem current_fields_handled_alike_null_inserts :
    let payload : Keyed Json := [("messageNumber", .number (.integer 1)), ("catalog", .text "c"),
      ("inserts", .array [.text "a"]), ("positionalInserts", .null)]
    let current : Keyed Json := [("positionalInserts", .array [.text "a"]), ("catalog", .text "c"),
      ("messageCode", .number (.integer 1))]
    let formatter := Formatter.ofLibrary ⟨"index.json", [], []⟩
    let older : Response := ⟨404, [], .sized olderText.toUTF8⟩
    let newer : Response := ⟨404, [("content-length", "57".toUTF8)], .sized newerText.toUTF8⟩
    Keyed.Distinct payload ∧ current.Perm (CodedError.currentFields payload) ∧
      CarriesObject formatter older olderText.toUTF8 payload ∧
      CarriesObject formatter newer newerText.toUTF8 current ∧
      CodedError.ofPayload (.object current) = CodedError.ofPayload (.object payload) ∧
      ∃ handling : Handling,
        handling.Gives formatter none older olderText.toUTF8 (formatter.format none older) ∧
        handling.Gives formatter none newer newerText.toUTF8 (formatter.format none newer) := by
  intro payload current formatter older newer
  have distinct : Keyed.Distinct payload := by simp [payload, Keyed.Distinct, Keyed.keys]
  have renewed : current.Perm (CodedError.currentFields payload) := List.Perm.swap ..
  have olderTokens : Json.tokens? olderText.toList = some [.beginObject,
      .text (some "messageNumber"), .colon, .number ⟨false, ['1'], none, none⟩, .comma,
      .text (some "catalog"), .colon, .text (some "c"), .comma, .text (some "inserts"), .colon,
      .beginArray, .text (some "a"), .endArray, .comma, .text (some "positionalInserts"), .colon,
      .null, .endObject] := by cbv
  have newerTokens : Json.tokens? newerText.toList = some [.beginObject,
      .text (some "positionalInserts"), .colon, .beginArray, .text (some "a"), .endArray, .comma,
      .text (some "catalog"), .colon, .text (some "c"), .comma, .text (some "messageCode"), .colon,
      .number ⟨false, ['1'], none, none⟩, .endObject] := by cbv
  have olderRead : Json.read? olderText = some (.object payload) := by
    rw [Json.read?, Json.readNode?, olderTokens]
    rfl
  have newerRead : Json.read? newerText = some (.object current) := by
    rw [Json.read?, Json.readNode?, newerTokens]
    rfl
  have carried : CarriesObject formatter older olderText.toUTF8 payload :=
    ⟨rfl, rfl, by intro bound announced; cases announced; exact Nat.le_refl _,
      olderText, Text.fromUTF8?_toUTF8 _, olderRead⟩
  have newerCarried : CarriesObject formatter newer newerText.toUTF8 current :=
    ⟨rfl, rfl, by intro bound announced; cases announced; exact Nat.le_refl _,
      newerText, Text.fromUTF8?_toUTF8 _, newerRead⟩
  obtain ⟨decoded, _, handled⟩ := current_fields_handled_alike payload current distinct renewed
  obtain ⟨handling, first, second, _⟩ :=
    handled formatter none older newer _ _ carried newerCarried rfl rfl
  exact ⟨distinct, renewed, carried, newerCarried, decoded, handling, first, second⟩

end Http

end MessageCatalog
