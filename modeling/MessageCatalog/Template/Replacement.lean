import MessageCatalog.Text.CaseFold

/-!
One replacement pass. Reading from the left, every occurrence of the braced key up to case is
replaced by the value as it stands, and reading goes on behind the occurrence. The pieces of the
text (copied characters and occurrences found) are the view on which the pass is reasoned about.
-/

namespace MessageCatalog.Template

open Text

/-- The key between braces. -/
def braced (key : List Char) : List Char := '\x7b' :: key ++ ['\x7d']

theorem braced_length (key : List Char) : (braced key).length = key.length + 2 := by
  simp [braced]

inductive Piece where
  | copied (c : Char)
  | found (text : List Char)
deriving DecidableEq

namespace Piece

def source : Piece → List Char
  | copied c => [c]
  | found text => text

def replacement (value : List Char) : Piece → List Char
  | copied c => [c]
  | found _ => value

end Piece

def pieces (key text : List Char) : List Piece :=
  match _step : dropStart? (braced key) text with
  | some rest => .found (text.take (key.length + 2)) :: pieces key rest
  | none =>
      match text with
      | [] => []
      | c :: rest => .copied c :: pieces key rest
termination_by text.length
decreasing_by
  · have := length_of_dropStart? _step
    rw [braced_length] at this
    omega
  · simp

def replaceAll (key value text : List Char) : List Char :=
  (pieces key text).flatMap (Piece.replacement value)

theorem take_of_dropStart? {start text rest : List Char}
    (found : dropStart? start text = some rest) :
    text.take start.length ++ rest = text := by
  induction start generalizing text with
  | nil => simp_all [dropStart?]
  | cons c start induction =>
      cases text with
      | nil => simp [dropStart?] at found
      | cons d text =>
          simp only [dropStart?] at found
          split at found
          · simpa using induction found
          · simp at found

/-- Nothing of the text is lost in its pieces. -/
theorem pieces_source (key text : List Char) : (pieces key text).flatMap Piece.source = text := by
  fun_induction pieces key text with
  | case1 text rest step induction =>
      have whole := take_of_dropStart? step
      rw [braced_length] at whole
      simp [Piece.source, induction, whole]
  | case2 => rfl
  | case3 c rest step induction => simp [Piece.source, induction]

end MessageCatalog.Template
