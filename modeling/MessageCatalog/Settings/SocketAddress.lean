import MessageCatalog.Text.Digits

/-!
Socket addresses with literal hosts: four decimal octets, or groups of hexadecimal digits in
brackets with an optional numeric scope, and a port. Each reader takes the text from the left and
returns what is left over.
-/

namespace MessageCatalog

open Text

inductive HostAddress where
  | four (octets : List Nat)
  | six (groups : List Nat) (scope : Nat)
deriving DecidableEq

namespace HostAddress

/-- The loopback addresses, and those that stand for all addresses or for many receivers. -/
def isLocalFour : List Nat → Bool
  | [255, 255, 255, 255] => true
  | first :: _ => first == 0 || first == 127 || (224 ≤ first && first < 240)
  | [] => false

/-- Whether the address can be one of any machine's own. -/
def isLocal : HostAddress → Bool
  | four octets => isLocalFour octets
  | six [0, 0, 0, 0, 0, 0xffff, high, low] _ =>
      isLocalFour [high / 256, high % 256, low / 256, low % 256]
  | six groups _ =>
      groups.all (· == 0) || groups == [0, 0, 0, 0, 0, 0, 0, 1] || groups.head?.any (0xff00 ≤ ·)

end HostAddress

structure SocketAddress where
  host : HostAddress
  port : Nat
deriving DecidableEq

namespace SocketAddress

def expect (c : Char) : List Char → Option (List Char)
  | d :: rest => if c = d then some rest else none
  | [] => none

/-- A separator before all but the first part. -/
def separate (c : Char) (first : Bool) (text : List Char) : Option (List Char) :=
  if first then some text else expect c text

def isDigitOf (base : Nat) (c : Char) : Bool := (digitValue? base c).isSome

/-- All the digits here, at most `places` of them where that is given, below `limit`. -/
def readNumber (base : Nat) (places : Option Nat) (leadingZero : Bool) (limit : Nat)
    (text : List Char) : Option (Nat × List Char) := do
  let digits := text.takeWhile (isDigitOf base)
  let value ← readDigits? base digits
  let fits := places.all (digits.length ≤ ·)
  let plain := leadingZero || digits.length = 1 || digits.head? != some '0'
  if fits && plain && value < limit then some (value, text.dropWhile (isDigitOf base)) else none

def readOctets : Nat → Bool → List Char → Option (List Nat × List Char)
  | 0, _, text => some ([], text)
  | count + 1, first, text => do
      let text ← separate '.' first text
      let (octet, text) ← readNumber 10 (some 3) false 256 text
      let (octets, text) ← readOctets count false text
      some (octet :: octets, text)

def readFour (text : List Char) : Option (List Nat × List Char) := readOctets 4 true text

/-- Groups of an address of the second kind, as many as are there and at most `room`. Where two
groups have room, four octets may stand for the last two; the flag says that they do. -/
def readGroups : Nat → Bool → List Char → List Nat × Bool × List Char
  | 0, _, text => ([], false, text)
  | room + 1, first, text =>
      let four := do
        let inner ← separate ':' first text
        readFour inner
      match room, four with
      | _ + 1, some ([a, b, c, d], rest) => ([a * 256 + b, c * 256 + d], true, rest)
      | _, _ =>
          let group := do
            let inner ← separate ':' first text
            readNumber 16 (some 4) true 0x10000 inner
          match group with
          | some (value, rest) =>
              let (values, mixed, rest) := readGroups room false rest
              (value :: values, mixed, rest)
          | none => ([], false, text)

/-- Eight groups, or fewer with one double colon that stands for one zero group at least. -/
def readSix (text : List Char) : Option (List Nat × List Char) := do
  let (front, mixed, rest) := readGroups 8 true text
  if front.length = 8 then some (front, rest)
  else if mixed then none
  else
    let rest ← expect ':' rest
    let rest ← expect ':' rest
    let (back, _, rest) := readGroups (7 - front.length) true rest
    some (front ++ List.replicate (8 - front.length - back.length) 0 ++ back, rest)

def readPort (text : List Char) : Option (Nat × List Char) := do
  let text ← expect ':' text
  readNumber 10 none true 0x10000 text

/-- A scope that cannot be read is left where it stands. -/
def readScope (text : List Char) : Nat × List Char :=
  let scope := do
    let text ← expect '%' text
    readNumber 10 none true (Nat.pow 2 32) text
  scope.getD (0, text)

def readFourWithPort (text : List Char) : Option (SocketAddress × List Char) := do
  let (octets, text) ← readFour text
  let (port, text) ← readPort text
  some (⟨.four octets, port⟩, text)

def readSixWithPort (text : List Char) : Option (SocketAddress × List Char) := do
  let text ← expect '[' text
  let (groups, text) ← readSix text
  let (scope, text) := readScope text
  let text ← expect ']' text
  let (port, text) ← readPort text
  some (⟨.six groups scope, port⟩, text)

def ofText? (text : List Char) : Option SocketAddress :=
  match (readFourWithPort text).orElse fun _ => readSixWithPort text with
  | some (address, []) => some address
  | _ => none

end SocketAddress

end MessageCatalog
