/-!
Offsets into text in bytes of UTF-8. A cut inside a character is no cut at all.
-/

namespace MessageCatalog.Text

def byteCount : List Char → Nat
  | [] => 0
  | c :: rest => c.utf8Size + byteCount rest

/-- The text before and behind the first `count` bytes. -/
def splitBytes? : Nat → List Char → Option (List Char × List Char)
  | 0, text => some ([], text)
  | _ + 1, [] => none
  | count + 1, c :: rest =>
      if c.utf8Size ≤ count + 1 then
        (splitBytes? (count + 1 - c.utf8Size) rest).map fun (before, behind) =>
          (c :: before, behind)
      else none

/-- The text between two offsets. -/
def bytesBetween? (first last : Nat) (text : List Char) : Option (List Char) := do
  let (_, behind) ← splitBytes? first text
  let (between, _) ← splitBytes? (last - first) behind
  some between

/-- The text behind an offset. -/
def bytesFrom? (first : Nat) (text : List Char) : Option (List Char) :=
  (splitBytes? first text).map Prod.snd

theorem fromUTF8?_toUTF8 (text : String) : String.fromUTF8? text.toUTF8 = some text :=
  dif_pos text.isValidUTF8

theorem splitBytes?_byteCount (left right : List Char) :
    splitBytes? (byteCount left) (left ++ right) = some (left, right) := by
  induction left with
  | nil => simp [byteCount, splitBytes?]
  | cons c rest induction =>
      have size : byteCount (c :: rest) = c.utf8Size + byteCount rest := rfl
      have positive := c.utf8Size_pos
      obtain ⟨count, whole⟩ : ∃ count, c.utf8Size + byteCount rest = count + 1 :=
        ⟨c.utf8Size + byteCount rest - 1, by omega⟩
      have fits : c.utf8Size ≤ count + 1 := by omega
      have left_over : count + 1 - c.utf8Size = byteCount rest := by omega
      rw [size, whole, List.cons_append, splitBytes?, if_pos fits, left_over, induction]
      rfl

end MessageCatalog.Text
