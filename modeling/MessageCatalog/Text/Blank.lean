/-!
White space in the sense of the Unicode property `White_Space`, and text without it at its ends.
Zero-width space and the byte order mark do not have the property.
-/

namespace MessageCatalog.Text

def isBlank (c : Char) : Bool :=
  let code := c.toNat
  (0x9 ≤ code && code ≤ 0xD) || code == 0x20 || code == 0x85 || code == 0xA0 || code == 0x1680 ||
    (0x2000 ≤ code && code ≤ 0x200A) || code == 0x2028 || code == 0x2029 || code == 0x202F ||
    code == 0x205F || code == 0x3000

def trimStart (text : List Char) : List Char := text.dropWhile isBlank

def trimEnd (text : List Char) : List Char := (text.reverse.dropWhile isBlank).reverse

def trim (text : List Char) : List Char := trimEnd (trimStart text)

theorem trimStart_of_head_not_blank (c : Char) (rest : List Char) (solid : isBlank c = false) :
    trimStart (c :: rest) = c :: rest := by
  simp [trimStart, solid]

/-- The part of `text` before the first character that satisfies `stop`. -/
def upTo (stop : Char → Bool) (text : List Char) : List Char := text.takeWhile (fun c => !stop c)

end MessageCatalog.Text
