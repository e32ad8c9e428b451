import Mathlib.Data.List.Basic
import MessageCatalog.Settings.Loading

/-!
The settings that break no rule: there is a path of the index and it has no forbidden character, the
address is a socket address, and the limit lies between its bounds.
-/

namespace MessageCatalog.Settings

structure Valid (settings : Settings) : Prop where
  index_given : settings.catalogIndex ≠ ""
  index_characters : ∀ c ∈ settings.catalogIndex.toList, c ∉ ['<', '>', '"', '|', '?', '*', '\x00']
  address : ∃ address, SocketAddress.ofText? settings.bindAddress.toList = some address
  limit : 1024 ≤ settings.bodyLimit ∧ settings.bodyLimit ≤ 16777216

theorem isForbiddenInPath_iff (c : Char) :
    isForbiddenInPath c = true ↔ c ∈ ['<', '>', '"', '|', '?', '*', '\x00'] := by
  simp [isForbiddenInPath, or_assoc]

theorem pathViolation?_eq_none_iff (path : String) :
    pathViolation? path = none ↔
      path ≠ "" ∧ ∀ c ∈ path.toList, c ∉ ['<', '>', '"', '|', '?', '*', '\x00'] := by
  rw [pathViolation?]
  by_cases empty : path = ""
  · simp [empty]
  · simp only [String.isEmpty_iff, empty, if_false, ne_eq, not_false_eq_true, true_and,
      ← isForbiddenInPath_iff]
    split <;> simp_all

theorem addressViolation?_eq_none_iff (address : String) :
    addressViolation? address = none ↔
      ∃ socket, SocketAddress.ofText? address.toList = some socket := by
  rw [addressViolation?, ← Option.isSome_iff_exists]
  split <;> simp_all

theorem check_eq (settings : Settings) : settings.check =
    if settings.violations = [] then .ok settings else .error (.invalid settings.violations) := by
  rw [check]
  split
  · next none => rw [if_pos none]
  · next some => rw [if_neg some]

theorem violations_eq_nil_iff (settings : Settings) :
    settings.violations = [] ↔ settings.Valid := by
  have index := pathViolation?_eq_none_iff settings.catalogIndex
  have address := addressViolation?_eq_none_iff settings.bindAddress
  have long : settings.catalogIndex ≠ "" → ¬ settings.catalogIndex.length < leastPathLength := by
    intro given short
    have none : settings.catalogIndex.length = 0 := Nat.lt_one_iff.mp short
    exact given (String.length_eq_zero_iff.mp none)
  simp only [violations, List.append_eq_nil_iff, Option.toList_eq_nil_iff, ite_eq_right_iff,
    List.cons_ne_nil, imp_false, Bool.or_eq_true, decide_eq_true_eq, not_or, Nat.not_lt, index,
    address]
  constructor
  · intro unbroken
    obtain ⟨⟨⟨_, given, characters⟩, address⟩, limit⟩ := unbroken
    exact ⟨given, characters, address, limit⟩
  · intro valid
    exact ⟨⟨⟨Nat.not_lt.mp (long valid.index_given), valid.index_given, valid.index_characters⟩,
      valid.address⟩, valid.limit⟩

end MessageCatalog.Settings
