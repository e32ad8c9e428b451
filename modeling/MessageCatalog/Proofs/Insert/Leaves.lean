import MessageCatalog.Insert.Basic

/-!
Arrays as inserts. Their text is that of their leaves with commas between, read from left to right,
so the brackets around a part of the items cannot be seen in it.
-/

namespace MessageCatalog

namespace Json

mutual

/-- The texts of the leaves of an item, from left to right. Null and the empty array are one empty
leaf. -/
def leaves : Json → List String
  | null => [""]
  | array [] => [""]
  | array (item :: rest) => leaves item ++ itemLeaves rest
  | object _ => ["[object Object]"]
  | text value => [value]
  | boolean value => [(Insert.boolean value).plainText]
  | number value => [(Insert.number value).plainText]

def itemLeaves : List Json → List String
  | [] => []
  | item :: rest => leaves item ++ itemLeaves rest

end

theorem itemLeaves_eq_flatMap (items : List Json) : itemLeaves items = items.flatMap leaves := by
  induction items with
  | nil => rfl
  | cons item rest induction => rw [itemLeaves, induction, List.flatMap_cons]

theorem leaves_array {items : List Json} (given : items ≠ []) :
    leaves (array items) = items.flatMap leaves := by
  cases items with
  | nil => exact absurd rfl given
  | cons item rest => rw [leaves, itemLeaves_eq_flatMap, List.flatMap_cons]

/-- Every item has a leaf, if only an empty one. -/
theorem leaves_ne_nil : (value : Json) → leaves value ≠ []
  | null | array [] | object _ | text _ | boolean _ | number _ => List.cons_ne_nil _ _
  | array (item :: rest) => by
      have first := leaves_ne_nil item
      rw [leaves]
      exact List.append_ne_nil_of_left_ne_nil first _

theorem itemLeaves_ne_nil {items : List Json} (given : items ≠ []) : itemLeaves items ≠ [] := by
  cases items with
  | nil => exact absurd rfl given
  | cons item rest => exact List.append_ne_nil_of_left_ne_nil (leaves_ne_nil item) _

/-- The text of an item within an array. -/
def itemText (item : Json) : List Char := if item.isNull then [] else plainText item

theorem itemsPlainText_cons (item : Json) {rest : List Json} (given : rest ≠ []) :
    itemsPlainText (item :: rest) = itemText item ++ ',' :: itemsPlainText rest := by
  cases rest with
  | nil => exact absurd rfl given
  | cons next others =>
      rw [itemsPlainText, itemText]
      exact given

mutual

theorem itemText_eq_join : (item : Json) → itemText item = (",".intercalate (leaves item)).toList
  | null => rfl
  | array [] => rfl
  | array (item :: rest) => by
      have joined := itemsPlainText_eq_join (item :: rest)
      rw [itemLeaves] at joined
      rw [leaves, ← joined]
      rfl
  | object _ => rfl
  | text value => by
      rw [leaves, String.intercalate_singleton]
      rfl
  | boolean value => by
      rw [leaves, String.intercalate_singleton, Insert.plainText, String.toList_ofList]
      rfl
  | number value => by
      rw [leaves, String.intercalate_singleton, Insert.plainText, String.toList_ofList]
      rfl

theorem itemsPlainText_eq_join :
    (items : List Json) → itemsPlainText items = (",".intercalate (itemLeaves items)).toList
  | [] => rfl
  | [item] => by
      have alone := itemText_eq_join item
      rw [itemLeaves, itemLeaves, List.append_nil, ← alone, itemsPlainText, itemText]
  | item :: next :: rest => by
      have first := itemText_eq_join item
      have others := itemsPlainText_eq_join (next :: rest)
      have given : next :: rest ≠ [] := List.cons_ne_nil next rest
      rw [itemsPlainText_cons item given, itemLeaves,
        String.intercalate_append_of_ne_nil (leaves_ne_nil item) (itemLeaves_ne_nil given),
        first, others]
      simp

end

/-- Values that differ only in brackets around parts of arrays that are not empty, at any depth. -/
inductive Regrouped : Json → Json → Prop where
  | brackets (before after : List Json) {items : List Json} (given : items ≠ []) :
      Regrouped (array (before ++ array items :: after)) (array (before ++ (items ++ after)))
  | within (before after : List Json) {left right : Json} (inside : Regrouped left right) :
      Regrouped (array (before ++ left :: after)) (array (before ++ right :: after))
  | refl (value : Json) : Regrouped value value
  | symm {left right : Json} (other : Regrouped left right) : Regrouped right left
  | trans {left middle right : Json} (first : Regrouped left middle)
      (second : Regrouped middle right) :
      Regrouped left right

theorem leaves_of_regrouped {left right : Json} (regrouped : Regrouped left right) :
    leaves left = leaves right := by
  induction regrouped with
  | @brackets before after items given =>
      have nonempty : before ++ (items ++ after) ≠ [] := by simp [given]
      rw [leaves_array (by simp), leaves_array nonempty, List.flatMap_append, List.flatMap_append,
        List.flatMap_append, List.flatMap_cons, leaves_array given]
  | within before after inside same =>
      rw [leaves_array (by simp), leaves_array (by simp), List.flatMap_append, List.flatMap_append,
        List.flatMap_cons, List.flatMap_cons, same]
  | refl value => rfl
  | symm other same => exact same.symm
  | trans first second sameFirst sameSecond => exact sameFirst.trans sameSecond

end Json

open Json

theorem Insert.plainText_list (items : List Json) :
    (list items).plainText = ",".intercalate (leaves (.array items)) := by
  have joined := itemText_eq_join (.array items)
  apply String.toList_inj.mp
  rw [Insert.plainText, String.toList_ofList, ← joined]
  rfl

/-- The text of an array has its leaves with commas between them, and brackets around a part of the
items that is not empty do not change it. -/
theorem Insert.list_text_joins_leaves (items : List Json) :
    (list items).plainText = ",".intercalate (leaves (.array items)) ∧
      ∀ others, Regrouped (.array items) (.array others) →
        (list others).plainText = (list items).plainText := by
  refine ⟨plainText_list items, ?_⟩
  intro others regrouped
  rw [plainText_list, plainText_list, leaves_of_regrouped regrouped]

/-- An empty array inside an array leaves an empty place between two commas, as null does. -/
example :
    (Insert.list [.array [.text "a", .array []], .null, .object [],
      .array [.boolean true]]).plainText =
    "a,,,[object Object],true" := by decide +kernel

end MessageCatalog
