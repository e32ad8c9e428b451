/-!
Associations from keys to values that remember the order in which the keys were first written.
Writing a key again replaces its value and keeps its place. Document objects, insert sets, message
tables and locale tables are all kept this way; unless another type of keys is named, keys are text.
-/

namespace MessageCatalog

abbrev Keyed (Value : Type) (Key : Type := String) := List (Key × Value)

namespace Keyed

variable {Value Key : Type}

def keys (entries : Keyed Value Key) : List Key := entries.map Prod.fst

def Distinct (entries : Keyed Value Key) : Prop := (keys entries).Nodup

variable [DecidableEq Key]

def get? (key : Key) : Keyed Value Key → Option Value
  | [] => none
  | (name, value) :: rest => if name = key then some value else get? key rest

def put (key : Key) (value : Value) : Keyed Value Key → Keyed Value Key
  | [] => [(key, value)]
  | (name, old) :: rest =>
      if name = key then (name, value) :: rest else (name, old) :: put key value rest

/-- The entries of `upper` written over `lower`, first to last. -/
def overlay (lower upper : Keyed Value Key) : Keyed Value Key :=
  upper.foldl (fun entries entry => entries.put entry.1 entry.2) lower

/-- A list of pairs read as a run of writes: a repeated key keeps its first place and takes its
last value. -/
def ofPairs (pairs : List (Key × Value)) : Keyed Value Key := overlay [] pairs

theorem keys_put_of_mem (key : Key) (value : Value) (entries : Keyed Value Key)
    (member : key ∈ keys entries) : keys (put key value entries) = keys entries := by
  induction entries with
  | nil => simp [keys] at member
  | cons entry rest induction =>
      by_cases same : entry.1 = key
      · simp [put, keys, same]
      · have inside : key ∈ keys rest := by
          simpa [keys, Ne.symm same] using member
        have := induction inside
        simp_all [put, keys]

theorem keys_put_of_not_mem (key : Key) (value : Value) (entries : Keyed Value Key)
    (absent : key ∉ keys entries) : keys (put key value entries) = keys entries ++ [key] := by
  induction entries with
  | nil => rfl
  | cons entry rest induction =>
      have differs : ¬ entry.1 = key := by
        intro same
        exact absent (by simp [keys, same])
      have outside : key ∉ keys rest := by
        intro member
        exact absent (by simp only [keys, List.map_cons, List.mem_cons]; exact Or.inr member)
      have := induction outside
      simp_all [put, keys]

theorem distinct_put (key : Key) (value : Value) (entries : Keyed Value Key)
    (distinct : Distinct entries) : Distinct (put key value entries) := by
  by_cases member : key ∈ keys entries
  · simpa [Distinct, keys_put_of_mem key value entries member] using distinct
  · rw [Distinct, keys_put_of_not_mem key value entries member]
    rw [List.nodup_append]
    refine ⟨distinct, by simp, ?_⟩
    intro name inside other last same
    simp only [List.mem_singleton] at last
    exact member (by rw [← last, ← same]; exact inside)

theorem distinct_overlay (lower upper : Keyed Value Key) (distinct : Distinct lower) :
    Distinct (overlay lower upper) := by
  induction upper generalizing lower with
  | nil => exact distinct
  | cons entry rest induction =>
      exact induction (put entry.1 entry.2 lower) (distinct_put _ _ _ distinct)

theorem distinct_ofPairs (pairs : List (Key × Value)) : Distinct (ofPairs pairs) :=
  distinct_overlay [] pairs (by simp [Distinct, keys])

theorem get?_put_self (key : Key) (value : Value) (entries : Keyed Value Key) :
    get? key (put key value entries) = some value := by
  induction entries with
  | nil => simp [put, get?]
  | cons entry rest induction =>
      by_cases same : entry.1 = key <;> simp [put, get?, same, induction]

theorem get?_put_of_ne (key other : Key) (value : Value) (entries : Keyed Value Key)
    (differs : key ≠ other) : get? other (put key value entries) = get? other entries := by
  induction entries with
  | nil => simp [put, get?, differs]
  | cons entry rest induction =>
      by_cases same : entry.1 = key
      · simp [put, get?, same, differs]
      · simp [put, get?, same, induction]

theorem get?_eq_none_iff (key : Key) (entries : Keyed Value Key) :
    get? key entries = none ↔ key ∉ keys entries := by
  induction entries with
  | nil => simp [get?, keys]
  | cons entry rest induction =>
      by_cases same : entry.1 = key
      · simp [get?, keys, same]
      · have apart : ¬ key = entry.1 := fun equal => same equal.symm
        rw [get?, if_neg same, induction]
        simp [keys, apart]

/-- A key that is new goes to the end. -/
theorem put_of_not_mem (key : Key) (value : Value) (entries : Keyed Value Key)
    (absent : key ∉ keys entries) : put key value entries = entries ++ [(key, value)] := by
  induction entries with
  | nil => rfl
  | cons entry rest induction =>
      have differs : ¬ entry.1 = key := by
        intro same
        exact absent (by simp [keys, same])
      have outside : key ∉ keys rest := by
        intro member
        exact absent (List.mem_cons_of_mem entry.1 member)
      simp [put, differs, induction outside]

theorem overlay_of_distinct (lower upper : Keyed Value Key) (distinct : Distinct (lower ++ upper)) :
    overlay lower upper = lower ++ upper := by
  induction upper generalizing lower with
  | nil => simp [overlay]
  | cons entry rest induction =>
      have absent : entry.1 ∉ keys lower := by
        intro member
        simp only [Distinct, keys, List.map_append, List.map_cons, List.nodup_append] at distinct
        exact distinct.2.2 entry.1 member entry.1 (by simp) rfl
      have onward := induction (lower ++ [entry]) (by simpa using distinct)
      have stepped := put_of_not_mem entry.1 entry.2 lower absent
      simp only [overlay, List.foldl_cons] at onward ⊢
      rw [stepped, onward]
      simp

/-- Pairs with distinct keys are kept as they are. -/
theorem ofPairs_of_distinct (pairs : List (Key × Value)) (distinct : Distinct pairs) :
    ofPairs pairs = pairs := overlay_of_distinct [] pairs distinct

/-- The upper value where there is one, else the lower. -/
theorem get?_overlay (key : Key) (lower upper : Keyed Value Key) (distinct : Distinct upper) :
    get? key (overlay lower upper) = (get? key upper).or (get? key lower) := by
  induction upper generalizing lower with
  | nil => simp [overlay, get?]
  | cons entry rest induction =>
      have parts : entry.1 ∉ keys rest ∧ Distinct rest := by
        simpa [Distinct, keys] using distinct
      have onward := induction (put entry.1 entry.2 lower) parts.2
      have unfolded :
          overlay lower (entry :: rest) = overlay (put entry.1 entry.2 lower) rest := rfl
      rw [unfolded, onward]
      by_cases same : entry.1 = key
      · have absent : get? key rest = none := by
          rw [get?_eq_none_iff, ← same]
          exact parts.1
        rw [absent, ← same, get?_put_self]
        simp [get?]
      · rw [get?_put_of_ne entry.1 key entry.2 lower same]
        simp [get?, same]

def lastFirst (entries : Keyed Value Key) : Keyed Value Key :=
  match entries.getLast? with
  | none => []
  | some last => last :: entries.dropLast

/-- Takes out `key`; the last entry moves into the freed place. -/
def swapRemove (key : Key) (entries : Keyed Value Key) : Keyed Value Key :=
  match entries.span (fun entry => entry.1 ≠ key) with
  | (_, []) => entries
  | (before, _ :: after) => before ++ lastFirst after

/-- The entries in byte order of their keys, which is the order of their code points. -/
def sorted (entries : Keyed Value) : Keyed Value :=
  entries.mergeSort (fun left right => decide (left.1 ≤ right.1))

end Keyed

end MessageCatalog
