import Mathlib.Data.List.TakeWhile
import MessageCatalog.Text.Blank

/-!
Cutting a text and trimming it. A cut at white space apart, it does not matter whether the ends are
trimmed before the cut or only behind it, and two cuts one after the other are one cut at whatever
comes first.
-/

namespace MessageCatalog.Text

section Cutting

variable {stop : Char → Bool}

theorem upTo_append_of_free {before : List Char} (free : ∀ c ∈ before, stop c = false)
    (rest : List Char) :
    upTo stop (before ++ rest) = before ++ upTo stop rest := by
  apply List.takeWhile_append_of_pos
  intro c member
  rw [free c member]
  rfl

theorem upTo_of_free {text : List Char} (free : ∀ c ∈ text, stop c = false) :
    upTo stop text = text := by
  have whole := upTo_append_of_free free []
  rw [List.append_nil] at whole
  rw [whole]
  exact List.append_nil text

/-- What has no stop in it and is followed by one is all that is kept. -/
theorem upTo_exact {before rest : List Char} (free : ∀ c ∈ before, stop c = false)
    (stops : ∀ c ∈ rest.head?, stop c = true) : upTo stop (before ++ rest) = before := by
  have nothing : upTo stop rest = [] := by
    cases rest with
    | nil => rfl
    | cons c behind => simp [upTo, stops c rfl]
  rw [upTo_append_of_free free, nothing, List.append_nil]

/-- A cut is at the first stop, if there is one. -/
theorem upTo_split (stop : Char → Bool) (text : List Char) :
    ∃ rest, text = upTo stop text ++ rest ∧ (∀ c ∈ upTo stop text, stop c = false) ∧
      ∀ c ∈ rest.head?, stop c = true := by
  induction text with
  | nil => exact ⟨[], rfl, List.forall_mem_nil _, by simp⟩
  | cons c text induction =>
      cases ends : stop c with
      | true =>
          have nothing : upTo stop (c :: text) = [] := by simp [upTo, ends]
          rw [nothing]
          exact ⟨c :: text, rfl, List.forall_mem_nil _, by simp [ends]⟩
      | false =>
          have onward : upTo stop (c :: text) = c :: upTo stop text := by simp [upTo, ends]
          obtain ⟨rest, shape, free, stops⟩ := induction
          rw [onward]
          exact ⟨rest, congrArg (List.cons c) shape, List.forall_mem_cons.mpr ⟨ends, free⟩, stops⟩

/-- Nothing behind a stop is looked at. -/
theorem upTo_append_of_stopped {text : List Char} (stopped : ∃ c ∈ text, stop c = true)
    (rest : List Char) :
    upTo stop (text ++ rest) = upTo stop text := by
  induction text with
  | nil => simp at stopped
  | cons c text induction =>
      by_cases ends : stop c = true
      · simp [upTo, ends]
      · have later : ∃ d ∈ text, stop d = true := by simpa [ends] using stopped
        have onward := induction later
        simp only [upTo] at onward ⊢
        simp [ends, onward]

theorem upTo_upTo (stop other : Char → Bool) (text : List Char) :
    upTo stop (upTo other text) = upTo (fun c => other c || stop c) text := by
  induction text with
  | nil => rfl
  | cons c text induction =>
      cases ends : other c with
      | true => simp [upTo, ends]
      | false =>
          simp only [upTo] at induction ⊢
          cases next : stop c with
          | true => simp [ends, next]
          | false => simp [ends, next, induction]

theorem upTo_map {change : Char → Char} (blind : ∀ c, stop (change c) = stop c) (text : List Char) :
    upTo stop (text.map change) = (upTo stop text).map change := by
  have same : (fun c => !stop c) ∘ change = fun c => !stop c := by
    funext c
    rw [Function.comp, blind]
  rw [upTo, upTo, List.takeWhile_map, same]

end Cutting

section Trimming

/-- White space only. -/
def Blank (text : List Char) : Prop := ∀ c ∈ text, isBlank c = true

variable {text before after : List Char}

theorem trimStart_blank_append (blank : Blank before) (rest : List Char) :
    trimStart (before ++ rest) = trimStart rest :=
  List.dropWhile_append_of_pos blank

theorem trimStart_blank (blank : Blank text) : trimStart text = [] := by
  have whole := trimStart_blank_append blank []
  rwa [List.append_nil] at whole

theorem trimEnd_append_blank (blank : Blank after) (text : List Char) :
    trimEnd (text ++ after) = trimEnd text := by
  have reversed : Blank after.reverse := fun c member => blank c (List.mem_reverse.mp member)
  rw [trimEnd, List.reverse_append]
  exact congrArg List.reverse (trimStart_blank_append reversed text.reverse)

theorem trim_blank_append (blank : Blank before) (rest : List Char) :
    trim (before ++ rest) = trim rest := by
  rw [trim, trimStart_blank_append blank, trim]

theorem trim_append_blank (blank : Blank after) (text : List Char) :
    trim (text ++ after) = trim text := by
  rw [trim, trimStart, List.dropWhile_append]
  split
  · next empty =>
      have gone : trimStart text = [] := List.isEmpty_iff.mp empty
      have behind : after.dropWhile isBlank = [] := trimStart_blank blank
      rw [behind, trim, gone]
  · exact trimEnd_append_blank blank (trimStart text)

theorem trimStart_head (text : List Char) : ∀ c ∈ (trimStart text).head?, isBlank c = false := by
  induction text with
  | nil => simp [trimStart]
  | cons c text induction =>
      cases blank : isBlank c with
      | true =>
          rw [trimStart, List.dropWhile_cons_of_pos blank]
          exact induction
      | false =>
          rw [trimStart_of_head_not_blank c text blank]
          simp [blank]

theorem trimEnd_split (text : List Char) : ∃ after, Blank after ∧ text = trimEnd text ++ after := by
  refine ⟨(text.reverse.takeWhile isBlank).reverse, ?_, ?_⟩
  · exact fun c member => List.mem_takeWhile_imp (List.mem_reverse.mp member)
  · rw [trimEnd, ← List.reverse_append, List.takeWhile_append_dropWhile, List.reverse_reverse]

/-- What trimming takes away is white space before and behind. -/
theorem trim_split (text : List Char) :
    ∃ before after, Blank before ∧ Blank after ∧ text = before ++ (trim text ++ after) := by
  obtain ⟨after, blankAfter, shape⟩ := trimEnd_split (trimStart text)
  refine ⟨text.takeWhile isBlank, after, ?_, blankAfter, ?_⟩
  · exact fun c member => List.mem_takeWhile_imp member
  · rw [trim, ← shape, trimStart, List.takeWhile_append_dropWhile]

/-- No white space is left at the ends. -/
theorem trim_ends (text : List Char) :
    (∀ c ∈ (trim text).head?, isBlank c = false) ∧
      ∀ c ∈ (trim text).getLast?, isBlank c = false := by
  constructor
  · obtain ⟨after, _, shape⟩ := trimEnd_split (trimStart text)
    intro c first
    apply trimStart_head text c
    rw [shape, List.head?_append, ← trim, Option.mem_def.mp first]
    rfl
  · rw [trim, trimEnd, List.getLast?_reverse]
    exact trimStart_head (trimStart text).reverse

/-- Trimming before a cut that is not at white space adds nothing to trimming behind it. -/
theorem trim_upTo_trim {stop : Char → Bool} (solid : ∀ c, isBlank c = true → stop c = false)
    (text : List Char) :
    trim (upTo stop (trim text)) = trim (upTo stop text) := by
  obtain ⟨before, after, blankBefore, blankAfter, shape⟩ := trim_split text
  have freeBefore : ∀ c ∈ before, stop c = false := fun c member => solid c (blankBefore c member)
  have freeAfter : ∀ c ∈ after, stop c = false := fun c member => solid c (blankAfter c member)
  have inFront : trim (upTo stop text) = trim (upTo stop (trim text ++ after)) := by
    rw [congrArg (upTo stop) shape, upTo_append_of_free freeBefore, trim_blank_append blankBefore]
  rw [inFront]
  by_cases stopped : ∃ c ∈ trim text, stop c = true
  · rw [upTo_append_of_stopped stopped]
  · have free : ∀ c ∈ trim text, stop c = false := by simpa using stopped
    rw [upTo_append_of_free free, upTo_of_free free, upTo_of_free freeAfter,
      trim_append_blank blankAfter]

theorem trim_map {change : Char → Char} (blind : ∀ c, isBlank (change c) = isBlank c)
    (text : List Char) :
    trim (text.map change) = (trim text).map change := by
  have same : isBlank ∘ change = isBlank := funext blind
  have start : trimStart (text.map change) = (trimStart text).map change := by
    rw [trimStart, trimStart, List.dropWhile_map, same]
  rw [trim, start, trimEnd, ← List.map_reverse, List.dropWhile_map, same, ← List.map_reverse]
  rfl

theorem trimStart_of_solid_head (solid : ∀ c ∈ text.head?, isBlank c = false) :
    trimStart text = text := by
  cases text with
  | nil => rfl
  | cons c rest => exact trimStart_of_head_not_blank c rest (solid c rfl)

/-- What has no white space at its ends is all that is left of it with white space around. -/
theorem trim_exact (blankBefore : Blank before) (blankAfter : Blank after)
    (solidHead : ∀ c ∈ text.head?, isBlank c = false)
    (solidEnd : ∀ c ∈ text.getLast?, isBlank c = false) :
    trim (before ++ (text ++ after)) = text := by
  have turned : trimStart text.reverse = text.reverse := by
    apply trimStart_of_solid_head
    rw [List.head?_reverse]
    exact solidEnd
  rw [trim_blank_append blankBefore, trim_append_blank blankAfter, trim,
    trimStart_of_solid_head solidHead]
  exact (congrArg List.reverse turned).trans (List.reverse_reverse text)

end Trimming

end MessageCatalog.Text
