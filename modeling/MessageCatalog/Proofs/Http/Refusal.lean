import MessageCatalog.Proofs.Http.Formatting
import MessageCatalog.Proofs.Json.Writing

/-!
The body of a refusal. It is the text of the payload without its stack trace, but the trace is taken
out by putting the last member in its place. So the other members stand in the order in which they
came only if at most one of them came behind the trace.
-/

namespace MessageCatalog.Http.Formatter

variable {response : Response} {content : ByteArray} {payload left right : Keyed Json}

/-- Members of a payload in two orders are told apart by their texts. -/
theorem toUTF8_wireText_inj (coded : CodedPayload content payload)
    (leftDistinct : Keyed.Distinct left) (leftWithin : ∀ member ∈ left, member ∈ payload)
    (rightDistinct : Keyed.Distinct right) (rightWithin : ∀ member ∈ right, member ∈ payload) :
    (Json.object left).wireText.toUTF8 = (Json.object right).wireText.toUTF8 ↔ left = right := by
  constructor
  · intro sameBytes
    obtain ⟨text, _, read⟩ := coded.text
    obtain ⟨sound, nests⟩ := Json.readable_of_subset read leftDistinct leftWithin
    obtain ⟨otherSound, _⟩ := Json.readable_of_subset read rightDistinct rightWithin
    have sameText : (Json.object left).wireText = (Json.object right).wireText := by
      apply Option.some.inj
      rw [← Text.fromUTF8?_toUTF8, sameBytes, Text.fromUTF8?_toUTF8]
    exact Json.object.inj (Json.eq_of_wireText sound nests otherSound sameText)
  · rintro rfl
    rfl

theorem withoutStack_text_iff (coded : CodedPayload content payload) :
    (withoutStack payload).wireText.toUTF8 =
        (Json.object (payload.filter fun member => member.1 ≠ "stack")).wireText.toUTF8 ↔
      payload.swapRemove "stack" = payload.filter fun member => member.1 ≠ "stack" := by
  have distinct := coded.distinct
  apply toUTF8_wireText_inj coded
  · exact Keyed.distinct_swapRemove "stack" distinct
  · intro member inside
    exact Keyed.mem_of_swapRemove distinct inside
  · exact Keyed.distinct_filter distinct _
  · intro member inside
    exact (List.mem_filter.mp inside).1

section Working

variable [Template.KeySize] {formatter : Formatter} {locale : Option String}

/-- A response with a coded error as its body that the formatter looks at and has no message for. -/
structure Refused (formatter : Formatter) (locale : Option String) (response : Response)
    (content : ByteArray) (payload : Keyed Json) : Prop where
  delivered : response.body.read? = some content
  honest : ∀ bound, response.body.sizeBound? = some bound → content.size ≤ bound
  concerned : ¬ formatter.LeavesAlone response content
  coded : CodedPayload content payload
  unresolved : ∀ message, ¬ formatter.Resolves payload locale message

theorem refused_of_text {status : Nat} {headers : Headers} {text : String}
    (inspected : formatter.inspects ⟨status, headers, .sized text.toUTF8⟩ = true)
    (read : Json.read? text = some (.object payload))
    (coded : CodedError.looksCoded (.object payload) = true)
    (unresolved : formatter.messageFor? payload locale = none) :
    Refused formatter locale ⟨status, headers, .sized text.toUTF8⟩ text.toUTF8 payload where
  delivered := rfl
  honest bound announced := by
    cases announced
    exact Nat.le_refl _
  concerned :=
    not_leavesAlone_iff.mpr
      ⟨inspected, payload, codedPayload?_eq_some_iff.mp (codedPayload?_toUTF8 read coded)⟩
  coded := codedPayload?_eq_some_iff.mp (codedPayload?_toUTF8 read coded)
  unresolved := messageFor?_eq_none_iff.mp unresolved

theorem format_of_refused (refused : Refused formatter locale response content payload) :
    formatter.format locale response =
      jsonResponse 500 response.headers (withoutStack payload) := by
  obtain ⟨inspected, _⟩ := not_leavesAlone_iff.mp refused.concerned
  have read := readWithin_of_inspects refused.delivered refused.honest inspected
  rw [format_of_payload inspected read refused.coded,
    messageFor?_eq_none_iff.mpr refused.unresolved]

/-- A refusal keeps the order of the members besides the stack trace exactly when no more than one
of them came behind it. Where more did, the last one stands in its place and the others are as they
were. -/
theorem refusal_keeps_order_iff {request : Headers}
    (refused : Refused formatter (requestedLocale? request) response content payload) :
    (formatter.format (requestedLocale? request) response).status = 500 ∧
    ((formatter.format (requestedLocale? request) response).body.read? =
        some (Json.object (payload.filter fun member => member.1 ≠ "stack")).wireText.toUTF8 ↔
      ∀ before value after, payload = before ++ ("stack", value) :: after → after.length ≤ 1) ∧
    ∀ before value middle last, payload = before ++ ("stack", value) :: (middle ++ [last]) →
      (formatter.format (requestedLocale? request) response).body.read? =
        some (Json.object (before ++ last :: middle)).wireText.toUTF8 := by
  have distinct := refused.coded.distinct
  have body : (formatter.format (requestedLocale? request) response).body.read? =
      some (withoutStack payload).wireText.toUTF8 := by
    rw [format_of_refused refused]
    rfl
  refine ⟨?_, ?_, ?_⟩
  · rw [format_of_refused refused]
    rfl
  · rw [body, Option.some.injEq, withoutStack_text_iff refused.coded]
    exact Keyed.swapRemove_eq_filter_iff distinct
  · rintro before value middle last rfl
    rw [body, withoutStack, Keyed.swapRemove_of_mem value _ (Keyed.not_mem_around distinct).1,
      Keyed.lastFirst_concat]

end Working

def traceNearEndText : String :=
  "\x7b\"catalog\":\"c\",\"messageCode\":\"1\",\"stack\":\"s\",\"message\":\"m\"\x7d"

/-- With one member behind the stack trace the order is kept. -/
theorem refusal_keeps_order_near_end :
    let payload : Keyed Json :=
      [("catalog", .text "c"), ("messageCode", .text "1"), ("stack", .text "s"),
        ("message", .text "m")]
    let response : Response := ⟨404, [], .sized traceNearEndText.toUTF8⟩
    let formatter := ofLibrary ⟨"index.json", [], []⟩
    Refused formatter (requestedLocale? []) response traceNearEndText.toUTF8 payload ∧
      (formatter.format (requestedLocale? []) response).body.read? =
        some "\x7b\"catalog\":\"c\",\"messageCode\":\"1\",\"message\":\"m\"\x7d".toUTF8 := by
  intro payload response formatter
  have read : Json.read? traceNearEndText = some (.object payload) := by cbv
  have refused : Refused formatter (requestedLocale? []) response traceNearEndText.toUTF8 payload :=
    refused_of_text rfl read rfl rfl
  have nothingMoves :
      payload.swapRemove "stack" = payload.filter fun member => member.1 ≠ "stack" := rfl
  have short := (Keyed.swapRemove_eq_filter_iff refused.coded.distinct).mp nothingMoves
  have kept := (refusal_keeps_order_iff refused).2.1.mpr short
  refine ⟨refused, kept.trans ?_⟩
  apply congrArg (fun text : String => some text.toUTF8)
  cbv

def traceSecondText : String :=
  "\x7b\"catalog\":\"c\",\"stack\":\"s\",\"messageCode\":\"1\",\"message\":\"m\"\x7d"

/-- With two members behind the stack trace the second of them comes before the first. -/
theorem refusal_moves_last_member :
    let payload : Keyed Json :=
      [("catalog", .text "c"), ("stack", .text "s"), ("messageCode", .text "1"),
        ("message", .text "m")]
    let response : Response := ⟨404, [], .sized traceSecondText.toUTF8⟩
    let formatter := ofLibrary ⟨"index.json", [], []⟩
    Refused formatter (requestedLocale? []) response traceSecondText.toUTF8 payload ∧
      (formatter.format (requestedLocale? []) response).body.read? =
        some "\x7b\"catalog\":\"c\",\"message\":\"m\",\"messageCode\":\"1\"\x7d".toUTF8 ∧
      (formatter.format (requestedLocale? []) response).body.read? ≠
        some (Json.object (payload.filter fun member => member.1 ≠ "stack")).wireText.toUTF8 := by
  intro payload response formatter
  have read : Json.read? traceSecondText = some (.object payload) := by cbv
  have refused : Refused formatter (requestedLocale? []) response traceSecondText.toUTF8 payload :=
    refused_of_text rfl read rfl rfl
  refine ⟨refused, ?_, ?_⟩
  · rw [format_of_refused refused]
    apply congrArg (fun text : String => some text.toUTF8)
    cbv
  · rw [format_of_refused refused]
    intro sameBody
    have sameMembers := (withoutStack_text_iff refused.coded).mp (Option.some.inj sameBody)
    have sameKeys := congrArg Keyed.keys sameMembers
    revert sameKeys
    decide

end MessageCatalog.Http.Formatter
