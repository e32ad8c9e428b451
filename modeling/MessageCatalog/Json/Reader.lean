import MessageCatalog.Document.Selection
import MessageCatalog.Json.Token

/-!
JSON text read as a document. The tokens are taken one by one; the frames are the arrays and
objects still open, innermost first, and `Await` says which tokens may follow.
-/

namespace MessageCatalog.Json

/-- An open array or object with its contents so far, latest first. An object also holds the key
whose value is being read. -/
inductive Frame where
  | array (items : List Node)
  | object (members : List (Node × Node)) (key : Option String)

inductive Await where
  | value
  | valueOrEnd
  | key
  | keyOrEnd
  | colon
  | commaOrEnd
  | nothing (root : Node)

structure Reader where
  frames : List Frame
  await : Await

namespace Reader

def start : Reader := ⟨[], .value⟩

def nullScalar : Scalar := ⟨none, some .null, none, none, some true, false⟩

def booleanScalar (value : Bool) : Scalar :=
  ⟨none, some (.boolean value), some value, none, some false, false⟩

def textScalar (value : Option String) : Scalar :=
  ⟨value, value.map .text, none, none, some false, false⟩

def countOf? : Number → Option Nat
  | .integer value => if 0 ≤ value then some value.toNat else none
  | .double _ => none

def numberScalar (numeral : Numeral) : Scalar :=
  let value := Number.ofNumeral? numeral
  ⟨none, value.map .number, none, value.bind countOf?, some false, false⟩

/-- Puts a finished node where the innermost frame wants it. -/
def place (node : Node) : List Frame → Reader
  | [] => ⟨[], .nothing node⟩
  | .array items :: frames => ⟨.array (node :: items) :: frames, .commaOrEnd⟩
  | .object members key :: frames =>
      ⟨.object ((.scalar (textScalar key), node) :: members) key :: frames, .commaOrEnd⟩

def closeArray : List Frame → Option Reader
  | .array items :: frames => some (place (.sequence items.reverse) frames)
  | _ => none

def closeObject : List Frame → Option Reader
  | .object members _ :: frames => some (place (.mapping members.reverse) frames)
  | _ => none

/-- A token that begins a value. -/
def beginValue (frames : List Frame) : Token → Option Reader
  | .null => some (place (.scalar nullScalar) frames)
  | .boolean value => some (place (.scalar (booleanScalar value)) frames)
  | .number numeral => some (place (.scalar (numberScalar numeral)) frames)
  | .text value => some (place (.scalar (textScalar value)) frames)
  | .beginArray => some ⟨.array [] :: frames, .valueOrEnd⟩
  | .beginObject => some ⟨.object [] none :: frames, .keyOrEnd⟩
  | _ => none

def beginKey : List Frame → Token → Option Reader
  | .object members _ :: frames, .text key => some ⟨.object members key :: frames, .colon⟩
  | _, _ => none

def step (reader : Reader) (token : Token) : Option Reader :=
  match reader.await, token with
  | .value, token => beginValue reader.frames token
  | .valueOrEnd, .endArray => closeArray reader.frames
  | .valueOrEnd, token => beginValue reader.frames token
  | .key, token => beginKey reader.frames token
  | .keyOrEnd, .endObject => closeObject reader.frames
  | .keyOrEnd, token => beginKey reader.frames token
  | .colon, .colon => some ⟨reader.frames, .value⟩
  | .commaOrEnd, .comma =>
      match reader.frames with
      | .array _ :: _ => some ⟨reader.frames, .value⟩
      | .object _ _ :: _ => some ⟨reader.frames, .key⟩
      | [] => none
  | .commaOrEnd, .endArray => closeArray reader.frames
  | .commaOrEnd, .endObject => closeObject reader.frames
  | _, _ => none

end Reader

/-- What is read of arrays and objects may nest this deep. -/
def depthLimit : Nat := 127

/-- Reads what is selected of a text. -/
def readNode? (selection : Selection) (text : List Char) : Option Node := do
  let tokens ← tokens? text
  let reader ← tokens.foldlM Reader.step Reader.start
  match reader.await with
  | .nothing root =>
      let node := root.select selection
      if node.nestsWithin depthLimit then some node else none
  | _ => none

/-- The document value that a JSON text writes. -/
def read? (text : String) : Option Json := (readNode? .whole text.toList).bind Node.toJson?

end MessageCatalog.Json
