import MessageCatalog.Http.Formatter

/-!
The routes of the server: the state of health, and an example that always fails with a coded error.
All answers but those to `OPTIONS` requests go through the formatter.
-/

namespace MessageCatalog.Http

open Text

inductive Route where
  | health
  | sample
  | unknown
deriving DecidableEq

namespace Route

def isSchemeChar (c : Char) : Bool := c.isAlphanum || c == '+' || c == '-' || c == '.'

def endsAuthority (c : Char) : Bool := c == '/' || c == '?' || c == '#'

/-- What stands behind the scheme and the authority of an absolute target. -/
def behindAuthority? (target : List Char) : Option (List Char) :=
  match target.dropWhile isSchemeChar with
  | ':' :: '/' :: '/' :: rest => some (rest.dropWhile fun c => !endsAuthority c)
  | _ => none

/-- The part of a request target before the query and the fragment. An absolute target may leave its
path out. -/
def pathOf (target : List Char) : List Char :=
  let path := upTo (fun c => c == '?' || c == '#')
  match behindAuthority? target with
  | none => path target
  | some rest => if (path rest).isEmpty then ['/'] else path rest

/-- The example route takes any path behind it that is not empty. -/
def ofPath (path : List Char) : Route :=
  let stem := "/example/".toList
  if path == "/health".toList then health
  else if stem.isPrefixOf path && stem.length < path.length then Route.sample
  else unknown

end Route

def exampleError : CodedError :=
  .make "0002" "exampleLocal" "Example error" (.ofPairs [("id", .text "EXAMPLE ID")]) []

def healthReport (library : Library) : Json :=
  .object [("status", .text "ok"), ("catalogs", .array (library.names.map Json.text))]

/-- The answer of a route to a reading request. -/
def answerOf (library : Library) : Route → Response
  | .health => jsonResponse 200 [] (healthReport library)
  | .sample => jsonResponse 400 [] exampleError.toJson
  | .unknown => ⟨404, [], .empty⟩

/-- The methods that known routes take. -/
def allowed : Headers := [("allow", "GET,HEAD".toUTF8)]

/-- Answers a request. Known routes can only be read; the answer to a `HEAD` request has no body; an
`OPTIONS` request is always answered as a permitted preflight and does not reach the formatter. -/
def handle [Template.KeySize] (formatter : Formatter) (method : String) (target : String)
    (headers : Headers) : Response :=
  let route := Route.ofPath (Route.pathOf target.toList)
  let locale := requestedLocale? headers
  if method = "OPTIONS" then ⟨200, if route = .unknown then [] else allowed, .empty⟩
  else if method = "GET" || route = .unknown then
    formatter.format locale (answerOf formatter.library route)
  else if method = "HEAD" then
    { formatter.format locale (answerOf formatter.library route) with body := .empty }
  else formatter.format locale ⟨405, allowed, .empty⟩

end MessageCatalog.Http
