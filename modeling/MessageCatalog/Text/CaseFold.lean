import MessageCatalog.Text.CaseFold.Table

/-!
Comparing text without regard to case. Two characters count as the same when their simple case
foldings agree: `k`, `K` and the Kelvin sign are one class, `s`, `S` and long `ſ` another. Folding
is one character to one character, so equal texts have equal length, and the dotted and dotless
`i` keep to themselves.
-/

namespace MessageCatalog.Text

def foldCode (code : Nat) : Nat :=
  if code < 0x80 then
    if 0x41 ≤ code && code ≤ 0x5A then code + 0x20 else code
  else
    match foldRanges.find? (·.contains code) with
    | some range => range.target + (code - range.first)
    | none => code

def fold (c : Char) : Nat := foldCode c.toNat

def sameChar (left right : Char) : Bool := fold left == fold right

def SameText (left right : List Char) : Prop := left.map fold = right.map fold

instance (left right : List Char) : Decidable (SameText left right) :=
  inferInstanceAs (Decidable (left.map fold = right.map fold))

def sameText (left right : List Char) : Bool := left.map fold == right.map fold

theorem sameText_iff (left right : List Char) :
    sameText left right = true ↔ SameText left right := by
  simp [sameText, SameText]

/-- The Kelvin sign is a `k` and the long `ſ` is an `s`, but the dotless `ı` is no `i`. -/
example : SameText ['k', 's'] ['\u212a', 'ſ'] ∧ ¬ SameText ['i'] ['ı'] := by decide +kernel

theorem sameChar_refl (c : Char) : sameChar c c = true := by simp [sameChar]

theorem sameChar_symm (left right : Char) : sameChar left right = sameChar right left := by
  simp [sameChar, Bool.beq_comm]

theorem SameText.refl (text : List Char) : SameText text text := rfl

theorem SameText.symm {left right : List Char} (same : SameText left right) : SameText right left :=
  Eq.symm same

theorem SameText.trans {first second third : List Char} (same : SameText first second)
    (next : SameText second third) : SameText first third :=
  Eq.trans same next

theorem SameText.append {first second third fourth : List Char} (same : SameText first second)
    (next : SameText third fourth) : SameText (first ++ third) (second ++ fourth) := by
  unfold SameText at *
  rw [List.map_append, List.map_append, same, next]

theorem SameText.length_eq {left right : List Char} (same : SameText left right) :
    left.length = right.length := by
  have := congrArg List.length same
  simpa using this

/-- What is left of `text` after a start that equals `start` up to case. -/
def dropStart? : (start text : List Char) → Option (List Char)
  | [], text => some text
  | _ :: _, [] => none
  | c :: start, d :: text => if sameChar c d then dropStart? start text else none

theorem length_of_dropStart? {start text rest : List Char}
    (found : dropStart? start text = some rest) :
    text.length = start.length + rest.length := by
  induction start generalizing text with
  | nil => simp_all [dropStart?]
  | cons c start induction =>
      cases text with
      | nil => simp [dropStart?] at found
      | cons d text =>
          simp only [dropStart?] at found
          split at found
          · have := induction found
            simp only [List.length_cons]
            omega
          · simp at found

theorem dropStart?_append_iff {start found rest : List Char} (same : found.length = start.length) :
    dropStart? start (found ++ rest) = some rest ↔ SameText start found := by
  induction start generalizing found with
  | nil => simp_all [dropStart?, SameText]
  | cons c start induction =>
      cases found with
      | nil => simp at same
      | cons d found =>
          have lengths : found.length = start.length := by simpa using same
          have := induction lengths
          simp only [List.cons_append, dropStart?, SameText, List.map_cons, List.cons.injEq]
          by_cases equal : fold c = fold d
          · simp [sameChar, equal, this, SameText]
          · simp [sameChar, equal]

end MessageCatalog.Text
