import Mathlib.Data.List.Forall2
import Mathlib.Data.Option.Basic

/-!
Chains of steps that may fail. A chain succeeds when each of its steps does, and the first step that
fails decides how the chain fails. Two chains whose steps come out alike come out alike.
-/

namespace MessageCatalog.Outcome

variable {Failure Value Result : Type}

theorem bind_ok_iff {step : Except Failure Value} {onward : Value → Except Failure Result}
    {result : Result} :
    (step >>= onward) = .ok result ↔ ∃ value, step = .ok value ∧ onward value = .ok result := by
  cases step with
  | error cause =>
      constructor
      · intro impossible
        cases impossible
      · rintro ⟨value, impossible, _⟩
        cases impossible
  | ok value =>
      constructor
      · intro success
        exact ⟨value, rfl, success⟩
      · rintro ⟨other, same, success⟩
        cases same
        exact success

theorem bind_error_iff {step : Except Failure Value} {onward : Value → Except Failure Result}
    {cause : Failure} :
    (step >>= onward) = .error cause ↔
      step = .error cause ∨ ∃ value, step = .ok value ∧ onward value = .error cause := by
  cases step with
  | error other =>
      constructor
      · intro failure
        cases failure
        exact Or.inl rfl
      · rintro (same | ⟨value, impossible, _⟩)
        · cases same
          rfl
        · cases impossible
  | ok value =>
      constructor
      · intro failure
        exact Or.inr ⟨value, rfl, failure⟩
      · rintro (impossible | ⟨other, same, failure⟩)
        · cases impossible
        · cases same
          exact failure

theorem toOption_eq_some_iff {step : Except Failure Value} {value : Value} :
    step.toOption = some value ↔ step = .ok value := by
  cases step <;> simp [Except.toOption]

variable {Other Final : Type} {related : Value → Other → Prop} {afterwards : Result → Final → Prop}

/-- Both fail in the same way, or both succeed with related values. -/
inductive Alike (related : Value → Other → Prop) :
    Except Failure Value → Except Failure Other → Prop where
  | ok {left : Value} {right : Other} (values : related left right) :
      Alike related (.ok left) (.ok right)
  | error (cause : Failure) : Alike related (.error cause) (.error cause)

theorem Alike.bind {left : Except Failure Value} {right : Except Failure Other}
    {onward : Value → Except Failure Result} {otherOnward : Other → Except Failure Final}
    (alike : Alike related left right)
    (next : ∀ value other,
      related value other → Alike afterwards (onward value) (otherOnward other)) :
    Alike afterwards (left >>= onward) (right >>= otherOnward) := by
  cases alike with
  | ok values => exact next _ _ values
  | error cause => exact .error cause

theorem Alike.attach {left : Except Failure Value} {right : Except Failure Other}
    (alike : Alike related left right) :
    Alike (fun value other => left = .ok value ∧ right = .ok other ∧ related value other) left
      right := by
  cases alike with
  | ok values => exact .ok ⟨rfl, rfl, values⟩
  | error cause => exact .error cause

theorem rel_bind {left : Option Value} {right : Option Other} {onward : Value → Option Result}
    {otherOnward : Other → Option Final} (alike : Option.Rel related left right)
    (next : ∀ value other,
      related value other → Option.Rel afterwards (onward value) (otherOnward other)) :
    Option.Rel afterwards (left >>= onward) (right >>= otherOnward) := by
  cases alike with
  | some values => exact next _ _ values
  | none => exact .none

theorem mapM_eq_some_iff {read : Value → Option Result} {items : List Value}
    {results : List Result} :
    items.mapM read = some results ↔
      List.Forall₂ (fun item result => read item = some result) items results := by
  induction items generalizing results with
  | nil => cases results <;> simp
  | cons item rest induction =>
      rw [List.mapM_cons]
      simp only [Option.bind_eq_bind, Option.bind_eq_some_iff, Option.pure_def, Option.some.injEq,
        induction]
      constructor
      · intro success
        obtain ⟨result, first, others, onward, rfl⟩ := success
        exact .cons first onward
      · intro pairwise
        cases pairwise with
        | cons first onward => exact ⟨_, first, _, onward, rfl⟩

theorem mem_of_mapM {read : Value → Option Result} {items : List Value} {results : List Result}
    (success : items.mapM read = some results) :
    ∀ result ∈ results, ∃ item ∈ items, read item = some result := by
  rw [mapM_eq_some_iff] at success
  induction success with
  | nil => simp
  | @cons item result rest others first _ induction =>
      intro other member
      rcases List.mem_cons.mp member with same | inside
      · exact ⟨item, List.mem_cons_self, same ▸ first⟩
      · obtain ⟨source, listed, found⟩ := induction other inside
        exact ⟨source, List.mem_cons_of_mem item listed, found⟩

/-- Two readings of a whole list, one after the other, are one reading of each item. -/
theorem mapM_mapM (read : Value → Option Other) (again : Other → Option Result)
    (items : List Value) :
    ((items.mapM read).bind fun between => between.mapM again) =
      items.mapM fun item => (read item).bind again := by
  induction items with
  | nil => rfl
  | cons item rest induction =>
      rw [List.mapM_cons, List.mapM_cons, ← induction]
      cases read item with
      | none => rfl
      | some first =>
          cases rest.mapM read with
          | none => cases found : again first <;> simp [found]
          | some between =>
              change List.mapM again (first :: between) = _
              rw [List.mapM_cons]
              rfl

theorem mapM_map (read : Value → Option Other) (convert : Other → Result) (items : List Value) :
    (items.mapM fun item => (read item).map convert) =
      (items.mapM read).map (List.map convert) := by
  induction items with
  | nil => rfl
  | cons item rest induction =>
      rw [List.mapM_cons, List.mapM_cons, induction]
      cases read item with
      | none => rfl
      | some first => cases rest.mapM read <;> rfl

/-- Reading a list item by item, where related items read as related values. -/
theorem rel_mapM {read : Value → Option Result} {otherRead : Other → Option Final}
    (each : ∀ value other,
      related value other → Option.Rel afterwards (read value) (otherRead other))
    {items : List Value} {others : List Other} (pairwise : List.Forall₂ related items others) :
    Option.Rel (List.Forall₂ afterwards) (items.mapM read) (others.mapM otherRead) := by
  induction pairwise with
  | nil => exact .some .nil
  | cons first rest induction =>
      rw [List.mapM_cons, List.mapM_cons]
      apply rel_bind (each _ _ first)
      intro result final heads
      apply rel_bind induction
      intro results finals tails
      exact .some (.cons heads tails)

theorem rel_attach {left : Option Value} {right : Option Other}
    (alike : Option.Rel related left right) :
    Option.Rel (fun value other => left = some value ∧ right = some other ∧ related value other)
      left right := by
  cases alike with
  | none => exact .none
  | some values => exact .some ⟨rfl, rfl, values⟩

theorem rel_or {left leftLower : Option Value} {right rightLower : Option Other}
    (upper : Option.Rel related left right) (lower : Option.Rel related leftLower rightLower) :
    Option.Rel related (left.or leftLower) (right.or rightLower) := by
  cases upper with
  | none => exact lower
  | some values => exact .some values

theorem rel_mono {weaker : Value → Other → Prop} {left : Option Value} {right : Option Other}
    (weaken : ∀ value other, related value other → weaker value other)
    (alike : Option.Rel related left right) :
    Option.Rel weaker left right := by
  cases alike with
  | none => exact .none
  | some values => exact .some (weaken _ _ values)

theorem rel_map {left : Option Value} {right : Option Other} {convert : Value → Result}
    {otherConvert : Other → Final} (alike : Option.Rel related left right)
    (next : ∀ value other, related value other → afterwards (convert value) (otherConvert other)) :
    Option.Rel afterwards (left.map convert) (right.map otherConvert) := by
  cases alike with
  | none => exact .none
  | some values => exact .some (next _ _ values)

theorem rel_trans {across : Value → Final → Prop} {onwards : Other → Final → Prop}
    {first : Option Value} {second : Option Other} {third : Option Final}
    (compose : ∀ value other final, related value other → onwards other final → across value final)
    (left : Option.Rel related first second) (right : Option.Rel onwards second third) :
    Option.Rel across first third := by
  cases left with
  | none =>
      cases right with
      | none => exact .none
  | some holds =>
      cases right with
      | some next => exact .some (compose _ _ _ holds next)

/-- Reading the same items in another order. -/
theorem perm_mapM (read : Value → Option Result) {items others : List Value}
    (same : items.Perm others) :
    Option.Rel List.Perm (items.mapM read) (others.mapM read) := by
  induction same with
  | nil => exact .some .nil
  | cons first rest induction =>
      rw [List.mapM_cons, List.mapM_cons]
      cases read first with
      | none => exact .none
      | some result =>
          apply rel_bind induction
          intro results finals tails
          exact .some (tails.cons result)
  | swap first second rest =>
      simp only [List.mapM_cons]
      cases read first with
      | none => cases read second <;> exact .none
      | some result =>
          cases read second with
          | none => exact .none
          | some other =>
              cases rest.mapM read with
              | none => exact .none
              | some results => exact .some (.swap result other results)
  | trans _ _ left right => exact rel_trans (fun _ _ _ next last => next.trans last) left right

end MessageCatalog.Outcome
