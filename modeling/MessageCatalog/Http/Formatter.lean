import MessageCatalog.Catalog.Resolution
import MessageCatalog.Http.Response
import MessageCatalog.Json.Reader

/-!
Error responses with catalog messages. An error response whose body is a coded error gets the
message for it as its body and keeps its status. When that fails the response becomes an internal
error with the payload as it came but for its stack trace. All other responses pass unchanged.
-/

namespace MessageCatalog.Http

/-- What an application may do with a coded error before it is resolved; nothing means that it
failed. -/
abbrev Hook := CodedError → Option CodedError

structure Formatter where
  library : Library
  hook : Option Hook
  bodyLimit : Nat

/-- Bodies up to this size are looked at when nothing else is said. -/
def standardBodyLimit : Nat := 1024 * 1024

/-- Header values that are text hold visible ASCII characters, spaces and tabs only. -/
def headerText? (value : ByteArray) : Option (List Char) :=
  if value.toList.all fun byte => (0x20 ≤ byte && byte < 0x7F) || byte == 0x9 then
    some (value.toList.map fun byte => Char.ofNat byte.toNat)
  else none

/-- The language that the request headers ask for. -/
def requestedLocale? (headers : Headers) : Option String := do
  let value ← headers.first? "accept-language"
  let text ← headerText? value
  preferredLanguage? text

/-- The payload of a body that is a coded error. -/
def codedPayload? (content : ByteArray) : Option (List (String × Json)) := do
  let text ← String.fromUTF8? content
  match ← Json.read? text with
  | .object members => if CodedError.looksCoded (.object members) then some members else none
  | _ => none

def jsonBody (value : Json) : Body := .sized value.wireText.toUTF8

def jsonResponse (status : Nat) (headers : Headers) (value : Json) : Response where
  status := status
  headers := (headers.remove "content-length").replace "content-type" "application/json".toUTF8
  body := jsonBody value

/-- The payload without its stack trace; the last member moves into its place. -/
def withoutStack (payload : List (String × Json)) : Json :=
  .object (Keyed.swapRemove "stack" payload)

namespace Formatter

variable [Template.KeySize]

def ofLibrary (library : Library) : Formatter := ⟨library, none, standardBodyLimit⟩

/-- Decodes the payload, lets the hook work on it and resolves it. -/
def messageFor? (formatter : Formatter) (payload : List (String × Json)) (locale : Option String) :
    Option Message := do
  let error ← (CodedError.ofPayload (.object payload)).toOption
  let error ← match formatter.hook with
    | some hook => hook error
    | none => some error
  (formatter.library.resolveCoded error locale).toOption

/-- Only error responses with a body of known size within the limit are looked at. -/
def inspects (formatter : Formatter) (response : Response) : Bool :=
  response.isError && response.body.sizeBound?.any (· ≤ formatter.bodyLimit)

def format (formatter : Formatter) (locale : Option String) (response : Response) : Response :=
  if !formatter.inspects response then response
  else
    match response.body.readWithin? formatter.bodyLimit with
    | none =>
        { response with
          status := 500, headers := response.headers.remove "content-length", body := .empty }
    | some content =>
        match codedPayload? content with
        | none => { response with body := .sized content }
        | some payload =>
            match formatter.messageFor? payload locale with
            | some message => jsonResponse response.status response.headers message.toJson
            | none => jsonResponse 500 response.headers (withoutStack payload)

end Formatter

end MessageCatalog.Http
