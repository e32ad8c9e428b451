import MessageCatalog.Http.Formatter
import MessageCatalog.Proofs.Json.Reading
import MessageCatalog.Proofs.Outcome

/-!
What the formatter makes of a response. It leaves the response alone, or answers with the message,
or refuses with the payload but for its stack trace; which of the three is decided by the response,
the decoding, the hook and the library, and headers change only where a new body asks for it.
-/

namespace MessageCatalog.Http

def Headers.all (name : String) (headers : Headers) : List ByteArray :=
  (headers.filter (·.1 == name)).map Prod.snd

/-- The bytes are the JSON text of an object that names a catalog and a message code. -/
structure CodedPayload (content : ByteArray) (payload : Keyed Json) : Prop where
  text : ∃ text, String.fromUTF8? content = some text ∧ Json.read? text = some (.object payload)
  catalog : ∃ value, payload.get? "catalog" = some value ∧ value ≠ .null
  code : (∃ value, payload.get? "messageCode" = some value ∧ value ≠ .null) ∨
    ∃ value, payload.get? "messageNumber" = some value ∧ value ≠ .null

structure Unchanged (response : Response) (content : ByteArray) (answer : Response) : Prop where
  status : answer.status = response.status
  headers : answer.headers = response.headers
  body : answer.body.read? = some content

/-- The answer has another body, which is the text of `value`, and the headers that belong to it. -/
structure Rewritten (response : Response) (status : Nat) (value : Json)
    (answer : Response) : Prop where
  status : answer.status = status
  body : answer.body.read? = some value.wireText.toUTF8
  contentType : answer.headers.all "content-type" = ["application/json".toUTF8]
  contentLength : answer.headers.all "content-length" = []
  otherHeaders : ∀ name, name ≠ "content-type" → name ≠ "content-length" →
    answer.headers.all name = response.headers.all name

namespace Formatter

def LeavesAlone (formatter : Formatter) (response : Response) (content : ByteArray) : Prop :=
  (response.status < 400 ∨ 599 < response.status) ∨
    (∀ bound, response.body.sizeBound? = some bound → formatter.bodyLimit < bound) ∨
    ∀ payload, ¬ CodedPayload content payload

/-- Without a hook an error is resolved as it was decoded. -/
def Prepares (formatter : Formatter) (error prepared : CodedError) : Prop :=
  match formatter.hook with
  | some hook => hook error = some prepared
  | none => prepared = error

variable [Template.KeySize]

/-- Decoding, the hook and the resolution all succeed, and this is the message. -/
def Resolves (formatter : Formatter) (payload : Keyed Json) (locale : Option String)
    (message : Message) : Prop :=
  ∃ error prepared, CodedError.ofPayload (.object payload) = .ok error ∧
    formatter.Prepares error prepared ∧ formatter.library.resolveCoded prepared locale = .ok message

end Formatter

inductive Handling where
  | untouched
  | resolved
  | refused

/-- When a response is handled this way, and what the answer then is. -/
def Handling.Gives [Template.KeySize] (formatter : Formatter) (locale : Option String)
    (response : Response) (content : ByteArray) (answer : Response) : Handling → Prop
  | untouched => formatter.LeavesAlone response content ∧ Unchanged response content answer
  | resolved => ¬ formatter.LeavesAlone response content ∧ ∃ payload message,
      CodedPayload content payload ∧ formatter.Resolves payload locale message ∧
        Rewritten response response.status message.toJson answer
  | refused => ¬ formatter.LeavesAlone response content ∧ ∃ payload members,
      CodedPayload content payload ∧ (∀ message, ¬ formatter.Resolves payload locale message) ∧
        members.Perm (payload.filter fun member => member.1 ≠ "stack") ∧
        Rewritten response 500 (.object members) answer

theorem Headers.all_append (name : String) (left right : Headers) :
    Headers.all name (left ++ right) = left.all name ++ right.all name := by
  simp [all]

theorem Headers.all_remove_self (name : String) (headers : Headers) :
    (headers.remove name).all name = [] := by
  simp [remove, all]

theorem Headers.all_remove_of_ne {name other : String} (headers : Headers)
    (differs : other ≠ name) :
    (headers.remove name).all other = headers.all other := by
  have kept : ∀ header : String × ByteArray,
      (header.1 == other && header.1 != name) = (header.1 == other) := by
    intro header
    by_cases same : header.1 = other
    · simp [same, differs]
    · simp [same]
  simp [remove, all, List.filter_filter, kept]

theorem Headers.all_replace_self (name : String) (value : ByteArray) (headers : Headers) :
    (headers.replace name value).all name = [value] := by
  rw [replace, all_append, all_remove_self]
  simp [all]

theorem Headers.all_replace_of_ne {name other : String} (value : ByteArray) (headers : Headers)
    (differs : other ≠ name) : (headers.replace name value).all other = headers.all other := by
  rw [replace, all_append, all_remove_of_ne headers differs]
  simp [all, differs.symm]

theorem rewritten_jsonResponse (response : Response) (status : Nat) (value : Json) :
    Rewritten response status value (jsonResponse status response.headers value) where
  status := rfl
  body := rfl
  contentType := Headers.all_replace_self ..
  contentLength := by
    rw [jsonResponse, Headers.all_replace_of_ne _ _ (by decide), Headers.all_remove_self]
  otherHeaders name notType notLength := by
    rw [jsonResponse, Headers.all_replace_of_ne _ _ notType, Headers.all_remove_of_ne _ notLength]

theorem present_iff (field : String) (payload : Keyed Json) :
    CodedError.present field (.object payload) = true ↔
      ∃ value, payload.get? field = some value ∧ value ≠ .null := by
  rw [CodedError.present, Json.member?]
  cases payload.get? field with
  | none => simp
  | some value => cases value <;> simp [Json.isNull]

theorem codedPayload?_eq_some_iff {content : ByteArray} {payload : Keyed Json} :
    codedPayload? content = some payload ↔ CodedPayload content payload := by
  simp only [codedPayload?, Option.bind_eq_bind, Option.bind_eq_some_iff]
  constructor
  · rintro ⟨text, decoded, value, read, selected⟩
    split at selected
    · next members =>
        split at selected
        · next coded =>
            cases selected
            rw [CodedError.looksCoded, Bool.and_eq_true, Bool.or_eq_true] at coded
            simp only [present_iff] at coded
            exact ⟨⟨text, decoded, read⟩, coded.1, coded.2⟩
        · cases selected
    · cases selected
  · rintro ⟨⟨text, decoded, read⟩, catalog, code⟩
    have coded : CodedError.looksCoded (.object payload) = true := by
      rw [CodedError.looksCoded, Bool.and_eq_true, Bool.or_eq_true]
      simp only [present_iff]
      exact ⟨catalog, code⟩
    exact ⟨text, decoded, .object payload, read, by simp [coded]⟩

theorem codedPayload?_toUTF8 {text : String} {payload : Keyed Json}
    (read : Json.read? text = some (.object payload))
    (coded : CodedError.looksCoded (.object payload) = true) :
    codedPayload? text.toUTF8 = some payload := by
  rw [codedPayload?, Text.fromUTF8?_toUTF8]
  simp [read, coded]

theorem CodedPayload.distinct {content : ByteArray} {payload : Keyed Json}
    (coded : CodedPayload content payload) : Keyed.Distinct payload := by
  obtain ⟨text, _, read⟩ := coded.text
  have wellFormed := Json.wellFormed_read? read
  rw [Json.WellFormed] at wellFormed
  exact wellFormed.1

namespace Formatter

variable {formatter : Formatter} {response : Response} {content : ByteArray}

theorem inspects_iff : formatter.inspects response = true ↔
    (400 ≤ response.status ∧ response.status ≤ 599) ∧
      ∃ bound, response.body.sizeBound? = some bound ∧ bound ≤ formatter.bodyLimit := by
  simp only [inspects, Response.isError, Bool.and_eq_true, decide_eq_true_eq, Option.any_eq_true]
  constructor
  · rintro ⟨⟨lower, upper⟩, announced⟩
    exact ⟨⟨lower, by omega⟩, announced⟩
  · rintro ⟨⟨lower, upper⟩, announced⟩
    exact ⟨⟨lower, by omega⟩, announced⟩

/-- The formatter goes to work on just those responses that it inspects and finds a payload in. -/
theorem not_leavesAlone_iff : ¬ formatter.LeavesAlone response content ↔
    formatter.inspects response = true ∧ ∃ payload, CodedPayload content payload := by
  simp only [LeavesAlone, inspects_iff, not_or, Nat.not_lt, not_forall, not_not, exists_prop]
  constructor
  · rintro ⟨status, announced, payload⟩
    exact ⟨⟨status, announced⟩, payload⟩
  · rintro ⟨⟨status, announced⟩, payload⟩
    exact ⟨status, announced, payload⟩

theorem leavesAlone_of_uncoded (uncoded : codedPayload? content = none) :
    formatter.LeavesAlone response content := by
  refine Or.inr (Or.inr ?_)
  intro payload coded
  rw [codedPayload?_eq_some_iff.mpr coded] at uncoded
  cases uncoded

theorem readWithin_of_inspects (delivered : response.body.read? = some content)
    (honest : ∀ bound, response.body.sizeBound? = some bound → content.size ≤ bound)
    (inspected : formatter.inspects response = true) :
    response.body.readWithin? formatter.bodyLimit = some content := by
  obtain ⟨_, bound, announced, within⟩ := inspects_iff.mp inspected
  have fits : content.size ≤ formatter.bodyLimit := (honest bound announced).trans within
  simp [Body.readWithin?, delivered, fits]

section Working

variable [Template.KeySize]

theorem messageFor?_eq_some_iff {payload : Keyed Json} {locale : Option String}
    {message : Message} :
    formatter.messageFor? payload locale = some message ↔
      formatter.Resolves payload locale message := by
  simp only [messageFor?, Resolves, Prepares]
  cases formatter.hook with
  | none =>
      simp only [Option.bind_eq_bind, Option.bind_some, Option.bind_eq_some_iff,
        Outcome.toOption_eq_some_iff]
      constructor
      · rintro ⟨error, decoded, resolved⟩
        exact ⟨error, error, decoded, rfl, resolved⟩
      · rintro ⟨error, prepared, decoded, rfl, resolved⟩
        exact ⟨prepared, decoded, resolved⟩
  | some hook =>
      simp only [Option.bind_eq_bind, Option.bind_eq_some_iff, Outcome.toOption_eq_some_iff]
      constructor
      · rintro ⟨error, decoded, prepared, hooked, resolved⟩
        exact ⟨error, prepared, decoded, hooked, resolved⟩
      · rintro ⟨error, prepared, decoded, hooked, resolved⟩
        exact ⟨error, decoded, prepared, hooked, resolved⟩

theorem messageFor?_eq_none_iff {payload : Keyed Json} {locale : Option String} :
    formatter.messageFor? payload locale = none ↔
      ∀ message, ¬ formatter.Resolves payload locale message := by
  simp only [Option.eq_none_iff_forall_ne_some, ne_eq, messageFor?_eq_some_iff]

theorem format_of_uninspected (uninspected : formatter.inspects response = false)
    (locale : Option String) :
    formatter.format locale response = response := by
  simp only [format, uninspected, Bool.not_false, if_true]

theorem format_of_unread (inspected : formatter.inspects response = true)
    (unread : response.body.readWithin? formatter.bodyLimit = none) (locale : Option String) :
    formatter.format locale response =
      { response with
        status := 500, headers := response.headers.remove "content-length", body := .empty } := by
  simp only [format, inspected, unread, Bool.not_true, Bool.false_eq_true, if_false]

theorem format_of_uncoded (inspected : formatter.inspects response = true)
    (read : response.body.readWithin? formatter.bodyLimit = some content)
    (uncoded : codedPayload? content = none) (locale : Option String) :
    formatter.format locale response = { response with body := .sized content } := by
  simp only [format, inspected, read, uncoded, Bool.not_true, Bool.false_eq_true, if_false]

theorem format_of_leavesAlone (delivered : response.body.read? = some content)
    (honest : ∀ bound, response.body.sizeBound? = some bound → content.size ≤ bound)
    (alone : formatter.LeavesAlone response content) (locale : Option String) :
    Unchanged response content (formatter.format locale response) := by
  by_cases inspected : formatter.inspects response = true
  · have read := readWithin_of_inspects delivered honest inspected
    have unread : codedPayload? content = none := by
      rw [Option.eq_none_iff_forall_ne_some]
      intro payload coded
      exact not_leavesAlone_iff.mpr ⟨inspected, payload, codedPayload?_eq_some_iff.mp coded⟩ alone
    rw [format_of_uncoded inspected read unread]
    exact ⟨rfl, rfl, rfl⟩
  · rw [format_of_uninspected (Bool.eq_false_iff.mpr inspected)]
    exact ⟨rfl, rfl, delivered⟩

theorem format_of_payload {payload : Keyed Json} (inspected : formatter.inspects response = true)
    (read : response.body.readWithin? formatter.bodyLimit = some content)
    (coded : CodedPayload content payload) (locale : Option String) :
    formatter.format locale response =
      match formatter.messageFor? payload locale with
      | some message => jsonResponse response.status response.headers message.toJson
      | none => jsonResponse 500 response.headers (withoutStack payload) := by
  have found := codedPayload?_eq_some_iff.mpr coded
  cases outcome : formatter.messageFor? payload locale with
  | none =>
      simp only [format, inspected, read, found, outcome, Bool.not_true, Bool.false_eq_true,
        if_false]
  | some message =>
      simp only [format, inspected, read, found, outcome, Bool.not_true, Bool.false_eq_true,
        if_false]

theorem gives_resolved {payload : Keyed Json} {message : Message} {locale : Option String}
    (delivered : response.body.read? = some content)
    (honest : ∀ bound, response.body.sizeBound? = some bound → content.size ≤ bound)
    (inspected : formatter.inspects response = true) (coded : CodedPayload content payload)
    (outcome : formatter.messageFor? payload locale = some message) :
    Handling.Gives formatter locale response content (formatter.format locale response)
      .resolved := by
  have concerned := not_leavesAlone_iff.mpr ⟨inspected, payload, coded⟩
  have read := readWithin_of_inspects delivered honest inspected
  refine ⟨concerned, payload, message, coded, messageFor?_eq_some_iff.mp outcome, ?_⟩
  rw [format_of_payload inspected read coded, outcome]
  exact rewritten_jsonResponse ..

theorem gives_refused {payload : Keyed Json} {locale : Option String}
    (delivered : response.body.read? = some content)
    (honest : ∀ bound, response.body.sizeBound? = some bound → content.size ≤ bound)
    (inspected : formatter.inspects response = true) (coded : CodedPayload content payload)
    (outcome : formatter.messageFor? payload locale = none) :
    Handling.Gives formatter locale response content (formatter.format locale response)
      .refused := by
  have concerned := not_leavesAlone_iff.mpr ⟨inspected, payload, coded⟩
  have read := readWithin_of_inspects delivered honest inspected
  have fails := messageFor?_eq_none_iff.mp outcome
  have others := Keyed.swapRemove_perm "stack" payload coded.distinct
  refine ⟨concerned, payload, _, coded, fails, others, ?_⟩
  rw [format_of_payload inspected read coded, outcome]
  exact rewritten_jsonResponse ..

theorem handling_unique {answer : Response} {locale : Option String} {first second : Handling}
    (one : Handling.Gives formatter locale response content answer first)
    (other : Handling.Gives formatter locale response content answer second) : first = second := by
  have apart : ¬ (Handling.Gives formatter locale response content answer .resolved ∧
      Handling.Gives formatter locale response content answer .refused) := by
    rintro ⟨⟨_, payload, message, coded, resolves, _⟩, ⟨_, sameBytes, _, again, fails, _⟩⟩
    have same := codedPayload?_eq_some_iff.mpr again
    rw [codedPayload?_eq_some_iff.mpr coded] at same
    cases same
    exact fails message resolves
  cases first <;> cases second
  case untouched.untouched | resolved.resolved | refused.refused => rfl
  case untouched.resolved | untouched.refused => exact absurd one.1 other.1
  case resolved.untouched | refused.untouched => exact absurd other.1 one.1
  case resolved.refused => exact absurd ⟨one, other⟩ apart
  case refused.resolved => exact absurd ⟨other, one⟩ apart

/-- For every request, a response whose body is delivered within its announced size is handled in
exactly one of the three ways. They exclude each other by their conditions, so that one holds even
where the answer happens to look like the response. -/
theorem format_handles_once (formatter : Formatter) (request : Headers) (response : Response)
    (content : ByteArray) (delivered : response.body.read? = some content)
    (honest : ∀ bound, response.body.sizeBound? = some bound → content.size ≤ bound) :
    ∃! handling : Handling, handling.Gives formatter (requestedLocale? request) response content
      (formatter.format (requestedLocale? request) response) := by
  have some_handling : ∃ handling : Handling,
      handling.Gives formatter (requestedLocale? request) response content
        (formatter.format (requestedLocale? request) response) := by
    by_cases alone : formatter.LeavesAlone response content
    · exact ⟨.untouched, alone, format_of_leavesAlone delivered honest alone _⟩
    · obtain ⟨inspected, payload, coded⟩ := not_leavesAlone_iff.mp alone
      cases outcome : formatter.messageFor? payload (requestedLocale? request) with
      | some message => exact ⟨.resolved, gives_resolved delivered honest inspected coded outcome⟩
      | none => exact ⟨.refused, gives_refused delivered honest inspected coded outcome⟩
  obtain ⟨handling, gives⟩ := some_handling
  exact ⟨handling, gives, fun other givesToo => handling_unique givesToo gives⟩

end Working

/-- The payload of an error of a catalog that is not loaded comes back with status 500 and without
its stack trace. -/
theorem format_handles_once_unknown_catalog :
    let content := "\x7b\"catalog\":\"c\",\"messageCode\":\"1\",\"stack\":\"s\"\x7d".toUTF8
    let response : Response := ⟨404, [("content-length", "45".toUTF8)], .sized content⟩
    let formatter := ofLibrary ⟨"index.json", [], []⟩
    response.body.read? = some content ∧
      (∀ bound, response.body.sizeBound? = some bound → content.size ≤ bound) ∧
      Handling.refused.Gives formatter (requestedLocale? []) response content
        (formatter.format (requestedLocale? []) response) := by
  intro content response formatter
  have honest : ∀ bound, response.body.sizeBound? = some bound → content.size ≤ bound := by
    intro bound announced
    cases announced
    exact Nat.le_refl _
  have inspected : formatter.inspects response = true := rfl
  have tokens :
      Json.tokens? "\x7b\"catalog\":\"c\",\"messageCode\":\"1\",\"stack\":\"s\"\x7d".toList =
        some [.beginObject, .text (some "catalog"), .colon, .text (some "c"), .comma,
        .text (some "messageCode"), .colon, .text (some "1"), .comma,
        .text (some "stack"), .colon, .text (some "s"), .endObject] := by cbv
  have read : Json.read? "\x7b\"catalog\":\"c\",\"messageCode\":\"1\",\"stack\":\"s\"\x7d" =
      some (.object [("catalog", .text "c"), ("messageCode", .text "1"),
        ("stack", .text "s")]) := by
    rw [Json.read?, Json.readNode?, tokens]
    rfl
  have found := codedPayload?_toUTF8 read rfl
  have unresolved : formatter.messageFor?
      [("catalog", .text "c"), ("messageCode", .text "1"), ("stack", .text "s")]
      (requestedLocale? []) = none := rfl
  have concerned := not_leavesAlone_iff.mpr ⟨inspected, _, codedPayload?_eq_some_iff.mp found⟩
  obtain ⟨handling, gives, _⟩ := format_handles_once formatter [] response content rfl honest
  refine ⟨rfl, honest, ?_⟩
  cases handling with
  | untouched => exact absurd gives.1 concerned
  | resolved =>
      obtain ⟨_, payload, message, coded, resolves, _⟩ := gives
      have same := codedPayload?_eq_some_iff.mpr coded
      rw [found] at same
      cases same
      rw [messageFor?_eq_some_iff.mpr resolves] at unresolved
      cases unresolved
  | refused => exact gives

end Formatter

end MessageCatalog.Http
