import MessageCatalog.Template.Replacement

/-!
Text as a row of plain characters and slots. A slot is an opening brace, a name without braces,
which may be empty, and a closing brace. A text is flat when braces stand in it only around the
names of its slots; a flat text has one row of segments, and `segments` finds it.
-/

namespace MessageCatalog.Template

def isBrace (c : Char) : Bool := c == '\x7b' || c == '\x7d'

def BraceFree (text : List Char) : Prop := ∀ c ∈ text, isBrace c = false

-- Tests the characters of the text, not all there are.
instance (text : List Char) : Decidable (BraceFree text) :=
  List.decidableBAll (fun c => isBrace c = false) text

theorem braced_append (name rest : List Char) :
    braced name ++ rest = '\x7b' :: (name ++ '\x7d' :: rest) := by simp [braced]

theorem braceFree_cons {c : Char} {text : List Char} :
    BraceFree (c :: text) ↔ isBrace c = false ∧ BraceFree text := by simp [BraceFree]

inductive Segment where
  | plain (c : Char)
  | slot (name : List Char)
deriving DecidableEq

namespace Segment

def text : Segment → List Char
  | plain c => [c]
  | slot name => braced name

/-- No braces but those around the name of a slot. -/
def Clean : Segment → Prop
  | plain c => isBrace c = false
  | slot name => BraceFree name

instance : DecidablePred Clean
  | plain c => inferInstanceAs (Decidable (isBrace c = false))
  | slot name => inferInstanceAs (Decidable (BraceFree name))

end Segment

abbrev AllClean (row : List Segment) : Prop := ∀ segment ∈ row, segment.Clean

def join (row : List Segment) : List Char := row.flatMap Segment.text

def Flat (text : List Char) : Prop := ∃ row : List Segment, AllClean row ∧ text = join row

/-- A name that ends with a closing brace before any other brace, and what comes behind it. -/
def slotAt? (rest : List Char) : Option (List Char × List Char) :=
  match rest.dropWhile (!isBrace ·) with
  | '\x7d' :: after => some (rest.takeWhile (!isBrace ·), after)
  | _ => none

theorem slotAt?_sound {rest name after : List Char} (found : slotAt? rest = some (name, after)) :
    rest = name ++ '\x7d' :: after := by
  unfold slotAt? at found
  split at found
  · next behind shape =>
      cases found
      rw [← shape, List.takeWhile_append_dropWhile]
  · cases found

/-- The segments of what stands behind the first `passed` characters, read from the left; a brace
that opens no slot counts as plain. -/
def segmentsFrom : Nat → List Char → List Segment
  | _, [] => []
  | passed + 1, _ :: rest => segmentsFrom passed rest
  | 0, c :: rest =>
      if c = '\x7b' then
        match slotAt? rest with
        | some (name, _) => .slot name :: segmentsFrom (name.length + 1) rest
        | none => .plain c :: segmentsFrom 0 rest
      else .plain c :: segmentsFrom 0 rest

def segments (text : List Char) : List Segment := segmentsFrom 0 text

theorem segments_behind (before after : List Char) :
    segmentsFrom before.length (before ++ after) = segments after := by
  induction before with
  | nil => rfl
  | cons c before induction => simpa [segmentsFrom] using induction

/-- Nothing of the text is lost in its segments. -/
theorem join_segmentsFrom (passed : Nat) (text : List Char) :
    join (segmentsFrom passed text) = text.drop passed := by
  fun_induction segmentsFrom passed text with
  | case1 => simp [join]
  | case2 passed c rest induction => simpa using induction
  | case3 rest name after found induction =>
      have onward : join (.slot name :: segmentsFrom (name.length + 1) rest) =
          braced name ++ join (segmentsFrom (name.length + 1) rest) := rfl
      rw [onward, induction, slotAt?_sound found]
      simp [braced]
  | case4 rest missing induction => exact congrArg ('\x7b' :: ·) induction
  | case5 c rest differs induction => exact congrArg (c :: ·) induction

theorem join_segments (text : List Char) : join (segments text) = text := join_segmentsFrom 0 text

theorem slotAt?_free {rest name after : List Char} (found : slotAt? rest = some (name, after)) :
    BraceFree name := by
  unfold slotAt? at found
  split at found
  · cases found
    intro c member
    simpa using List.all_eq_true.mp List.all_takeWhile c member
  · cases found

theorem slotAt?_closed (name after : List Char) (free : BraceFree name) :
    slotAt? (name ++ '\x7d' :: after) = some (name, after) := by
  have inside : ∀ c ∈ name, (!isBrace c) = true := by
    intro c member
    simp [free c member]
  have closed : (!isBrace '\x7d') = false := by decide
  simp [slotAt?, List.dropWhile_append_of_pos inside, List.takeWhile_append_of_pos inside, closed]

theorem segments_plain (c : Char) (rest : List Char) (free : isBrace c = false) :
    segments (c :: rest) = .plain c :: segments rest := by
  have differs : c ≠ '\x7b' := by
    intro same
    simp [isBrace, same] at free
  simp [segments, segmentsFrom, differs]

theorem segments_slot (name rest : List Char) (free : BraceFree name) :
    segments (braced name ++ rest) = .slot name :: segments rest := by
  have found := slotAt?_closed name rest free
  have behind := segments_behind (name ++ ['\x7d']) rest
  rw [braced_append, segments, segmentsFrom, if_pos rfl, found]
  simpa using behind

/-- A clean row is the only one with its text. -/
theorem segments_join (row : List Segment) (clean : AllClean row) : segments (join row) = row := by
  induction row with
  | nil => rfl
  | cons segment row induction =>
      have head := clean segment (by simp)
      have tail := induction (fun other member => clean other (by simp [member]))
      cases segment with
      | plain c => exact (segments_plain c (join row) head).trans (by rw [tail])
      | slot name => exact (segments_slot name (join row) head).trans (by rw [tail])

theorem flat_iff (text : List Char) : Flat text ↔ AllClean (segments text) := by
  constructor
  · rintro ⟨row, clean, rfl⟩
    rw [segments_join row clean]
    exact clean
  · intro clean
    exact ⟨segments text, clean, (join_segments text).symm⟩

instance (text : List Char) : Decidable (Flat text) := decidable_of_iff _ (flat_iff text).symm

end MessageCatalog.Template
