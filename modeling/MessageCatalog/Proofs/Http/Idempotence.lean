import MessageCatalog.Proofs.Catalog.WireForm
import MessageCatalog.Proofs.Http.OlderPayload

/-!
Formatting a response that has been formatted before. The answers of the formatter are of three
kinds, and it leaves each of them as it is: responses that it does not inspect, bodies without a
coded payload, among them all messages, and payloads that it has refused before.
-/

namespace MessageCatalog

namespace CodedError

theorem looksCoded_congr {left right : Keyed Json}
    (same : ∀ field ∈ ["catalog", "messageCode", "messageNumber"],
      left.get? field = right.get? field) :
    looksCoded (.object left) = looksCoded (.object right) := by
  have member : ∀ field ∈ ["catalog", "messageCode", "messageNumber"],
      (Json.object left).member? field = (Json.object right).member? field := same
  simp only [looksCoded, present, member "catalog" (by decide), member "messageCode" (by decide),
    member "messageNumber" (by decide)]

/-- The stack trace is not looked at. -/
theorem sameFields_withoutStack {payload : Keyed Json} (distinct : Keyed.Distinct payload) :
    SameFields (.object (payload.swapRemove "stack")) (.object payload) := by
  apply SameFields.of_lookedAt
  intro field looked
  have differs : field ≠ "stack" := by
    rintro rfl
    revert looked
    decide
  exact Keyed.get?_swapRemove_of_ne distinct differs

end CodedError

namespace Http

theorem Headers.remove_append (name : String) (left right : Headers) :
    Headers.remove name (left ++ right) = left.remove name ++ right.remove name :=
  List.filter_append _ _

theorem Headers.remove_twice (name : String) (headers : Headers) :
    (headers.remove name).remove name = headers.remove name := by
  simp only [remove, List.filter_filter, Bool.and_self]

/-- Writing the same answer over an answer leaves its headers as they are. -/
theorem jsonResponse_again (status : Nat) (headers : Headers) (value : Json) :
    jsonResponse status (jsonResponse status headers value).headers value =
      jsonResponse status headers value := by
  let written : Headers := [("content-type", "application/json".toUTF8)]
  have kept : written.remove "content-length" = written := rfl
  have replaced : written.remove "content-type" = [] := rfl
  have others : ((headers.remove "content-length").remove "content-type").remove "content-length" =
      (headers.remove "content-length").remove "content-type" := by
    simp only [Headers.remove, List.filter_filter]
    congr 1
    funext header
    cases header.1 != "content-type" <;> cases header.1 != "content-length" <;> rfl
  have again : ((((headers.remove "content-length").remove "content-type" ++ written).remove
      "content-length").remove "content-type") ++ written =
        (headers.remove "content-length").remove "content-type" ++ written := by
    rw [Headers.remove_append, Headers.remove_append, others, kept, replaced, Headers.remove_twice,
      List.append_nil]
  simp only [jsonResponse, Headers.replace]
  exact congrArg (fun rest => Response.mk status rest (jsonBody value)) again

theorem codedPayload?_empty : codedPayload? ByteArray.empty = none := by
  have decoded : String.fromUTF8? ByteArray.empty = some "" := Text.fromUTF8?_toUTF8 ""
  have unread : Json.read? "" = none := by
    rw [Json.read?, String.toList_empty]
    rfl
  simp only [codedPayload?, decoded, unread, Option.bind_eq_bind, Option.bind_some,
    Option.bind_none]

theorem codedPayload?_wireText {members : Keyed Json} (sound : (Json.object members).Sound) :
    codedPayload? (Json.object members).wireText.toUTF8 =
      if (Node.ofJson (.object members)).nestsWithin Json.depthLimit &&
        CodedError.looksCoded (.object members) then some members
      else none := by
  rw [codedPayload?, Text.fromUTF8?_toUTF8]
  simp only [Option.bind_eq_bind, Option.bind_some, Json.read?_wireText sound]
  cases (Node.ofJson (.object members)).nestsWithin Json.depthLimit <;> simp

namespace Formatter

theorem readWithin_sized {formatter : Formatter} {status : Nat} {headers : Headers}
    {content : ByteArray}
    (inspected : formatter.inspects ⟨status, headers, .sized content⟩ = true) :
    (Body.sized content).readWithin? formatter.bodyLimit = some content := by
  apply readWithin_of_inspects rfl _ inspected
  intro bound announced
  cases announced
  exact Nat.le_refl _

section Working

variable [Template.KeySize]

/-- The kinds of responses that formatting leaves as they are. -/
inductive Final (formatter : Formatter) (locale : Option String) : Response → Prop where
  | skipped {response : Response} (uninspected : formatter.inspects response = false) :
      Final formatter locale response
  | plain {status : Nat} {headers : Headers} {content : ByteArray}
      (uncoded : codedPayload? content = none) :
      Final formatter locale ⟨status, headers, .sized content⟩
  | refused {headers : Headers} {payload : Keyed Json}
      (reads : codedPayload? (Json.object payload).wireText.toUTF8 = some payload)
      (traceless : "stack" ∉ payload.keys)
      (unresolved : formatter.messageFor? payload locale = none) :
      Final formatter locale (jsonResponse 500 headers (.object payload))

variable {formatter : Formatter} {locale : Option String} {response : Response}

theorem format_of_final (final : Final formatter locale response) :
    formatter.format locale response = response := by
  by_cases inspected : formatter.inspects response = true
  · cases final with
    | skipped uninspected =>
        rw [uninspected] at inspected
        cases inspected
    | plain uncoded => rw [format_of_uncoded inspected (readWithin_sized inspected) uncoded]
    | @refused headers payload reads traceless unresolved =>
        have coded := codedPayload?_eq_some_iff.mp reads
        rw [format_of_payload inspected (readWithin_sized inspected) coded locale, unresolved]
        simp only [withoutStack, Keyed.swapRemove_of_not_mem traceless]
        exact jsonResponse_again 500 headers (.object payload)
  · exact format_of_uninspected (Bool.eq_false_iff.mpr inspected) locale

/-- A payload that was read and refused is read again without its stack trace, and refused again. -/
theorem final_withoutStack {content : ByteArray} {payload : Keyed Json} (headers : Headers)
    (coded : CodedPayload content payload)
    (unresolved : formatter.messageFor? payload locale = none) :
    Final formatter locale (jsonResponse 500 headers (withoutStack payload)) := by
  obtain ⟨text, _, read⟩ := coded.text
  have distinct := coded.distinct
  have same := CodedError.sameFields_withoutStack distinct
  obtain ⟨sound, nests⟩ := Json.readable_of_subset read (Keyed.distinct_swapRemove "stack" distinct)
    fun member inside => Keyed.mem_of_swapRemove distinct inside
  have looks : CodedError.looksCoded (.object (payload.swapRemove "stack")) = true := by
    rw [same.looksCoded_eq, CodedError.looksCoded, Bool.and_eq_true, Bool.or_eq_true]
    simp only [present_iff]
    exact ⟨coded.catalog, coded.code⟩
  apply Final.refused
  · rw [codedPayload?_wireText sound, nests, looks]
    rfl
  · exact Keyed.not_mem_swapRemove "stack" distinct
  · rw [CarriesObject.messageFor?_eq formatter same, unresolved]

/-- Where messages are not taken for coded errors, all answers are final. -/
theorem final_format
    (plain : ∀ payload message, formatter.messageFor? payload locale = some message →
      codedPayload? message.toJson.wireText.toUTF8 = none)
    (response : Response) :
    Final formatter locale (formatter.format locale response) := by
  by_cases inspected : formatter.inspects response = true
  · cases read : response.body.readWithin? formatter.bodyLimit with
    | none =>
        rw [format_of_unread inspected read]
        exact .plain codedPayload?_empty
    | some content =>
        cases found : codedPayload? content with
        | none =>
            rw [format_of_uncoded inspected read found]
            exact .plain found
        | some payload =>
            have coded := codedPayload?_eq_some_iff.mp found
            rw [format_of_payload inspected read coded]
            cases outcome : formatter.messageFor? payload locale with
            | some message => exact .plain (plain payload message outcome)
            | none => exact final_withoutStack response.headers coded outcome
  · have uninspected := Bool.eq_false_iff.mpr inspected
    rw [format_of_uninspected uninspected]
    exact .skipped uninspected

/-- A message of a loaded library shows what its entry had besides the fields, and no more that
could make it look like a coded error. -/
theorem uncoded_message {tree : FileTree} {indexPath : String}
    (loaded : Library.load tree indexPath = .ok formatter.library)
    (plain : ∀ key code entry, formatter.library.entry? key code = some entry →
      CodedError.looksCoded (.object entry.extra) = false)
    {payload : Keyed Json} {message : Message}
    (outcome : formatter.messageFor? payload locale = some message) :
    codedPayload? message.toJson.wireText.toUTF8 = none := by
  obtain ⟨_, error, _, _, resolved⟩ := messageFor?_eq_some_iff.mp outcome
  obtain ⟨entry, found, extra, inserts⟩ := Library.parts_of_resolve resolved
  have writable :=
    Library.writable_message (Library.writable_found loaded found) (by simp) extra inserts
  have written := Message.written writable
  have uncoded : CodedError.looksCoded (.object entry.extra) = false := by
    rw [Library.findEntry?_eq, Option.or_eq_some_iff] at found
    rcases found with asked | ⟨_, fallback⟩
    · exact plain _ _ _ asked
    · exact plain _ _ _ fallback
  have same : CodedError.looksCoded (.object (message.ownMembers ++ message.extra)) =
      CodedError.looksCoded (.object message.extra) := by
    apply CodedError.looksCoded_congr
    intro field looked
    refine written.get?_other ?_
    revert field
    decide
  have document : message.toJson = .object (message.ownMembers ++ message.extra) := rfl
  rw [document, codedPayload?_wireText (written.object_sound (by decide)), same, extra, uncoded,
    Bool.and_false]
  rfl

/-- Formatting is idempotent: when no entry of the loaded library has members besides its fields
that look like a coded error, formatting a response twice for a request gives what formatting it
once does. -/
theorem format_idempotent (tree : FileTree) (indexPath : String) (formatter : Formatter)
    (loaded : Library.load tree indexPath = .ok formatter.library)
    (plain : ∀ key code entry, formatter.library.entry? key code = some entry →
      CodedError.looksCoded (.object entry.extra) = false)
    (request : Headers) (response : Response) :
    formatter.format (requestedLocale? request)
      (formatter.format (requestedLocale? request) response) =
        formatter.format (requestedLocale? request) response := by
  have messages : ∀ payload message,
      formatter.messageFor? payload (requestedLocale? request) = some message →
        codedPayload? message.toJson.wireText.toUTF8 = none := by
    intro payload message outcome
    exact uncoded_message loaded plain outcome
  have final := final_format messages response
  exact format_of_final final

end Working

/-- An error that the catalog has no message for. -/
def refusedText : String := "\x7b\"catalog\":\"c\",\"messageCode\":\"1\",\"stack\":\"s\"\x7d"

theorem format_idempotent_refused :
    let response : Response := ⟨404, [("content-length", "45".toUTF8)], .sized refusedText.toUTF8⟩
    let formatter := ofLibrary Library.shownLibrary
    let once := formatter.format (requestedLocale? []) response
    Library.load (Library.oneCatalog Library.shownContent) "index.json" = .ok formatter.library ∧
      once.status = 500 ∧ formatter.format (requestedLocale? []) once = once := by
  intro response formatter once
  have plain : ∀ key code entry, formatter.library.entry? key code = some entry →
      CodedError.looksCoded (.object entry.extra) = false := by
    intro key code entry found
    simp only [Option.bind_eq_bind, Option.bind_eq_some_iff, Library.entry?] at found
    obtain ⟨table, stored, found⟩ := found
    cases List.mem_singleton.mp (Keyed.mem_of_get? stored)
    cases List.mem_singleton.mp (Keyed.mem_of_get? found)
    rfl
  have read : Json.read? refusedText =
      some (.object [("catalog", .text "c"), ("messageCode", .text "1"),
        ("stack", .text "s")]) := by cbv
  have coded := codedPayload?_eq_some_iff.mp (codedPayload?_toUTF8 read rfl)
  have unresolved : formatter.messageFor?
      [("catalog", .text "c"), ("messageCode", .text "1"), ("stack", .text "s")]
      (requestedLocale? []) = none := rfl
  have refused : once.status = 500 := by
    have inspected : formatter.inspects response = true := rfl
    have answer :=
      format_of_payload inspected (readWithin_sized inspected) coded (requestedLocale? [])
    rw [unresolved] at answer
    exact congrArg Response.status answer
  exact ⟨Library.load_shown, refused,
    format_idempotent _ _ formatter Library.load_shown plain [] response⟩

end Formatter

end Http

end MessageCatalog
