import RecordGate.Proofs.Template.Leaves

/-!
# The texts of a value

The templates of a parameter tree are its texts, which are its leaves without their places: what is checked and what
is filled are the same texts, one by one and in the same order, wherever they stand in the tree.
-/

namespace RecordGate

namespace Value

mutual

/-- The texts inside a value, in the order of its elements and fields; names of fields are not among them. -/
def texts : Value → List String
  | .text s => [s]
  | .list items => textsOfItems items
  | .object fields => textsOfFields fields
  | _ => []

def textsOfItems : List Value → List String
  | [] => []
  | v :: rest => v.texts ++ textsOfItems rest

def textsOfFields : Entries Value → List String
  | [] => []
  | (_, v) :: rest => v.texts ++ textsOfFields rest

end

/-! ### Texts and leaves -/

mutual

theorem texts_eq (v : Value) : v.texts = v.leaves.map Leaf.text := by
  cases v with
  | text s => rfl
  | list items => exact textsOfItems_eq 0 items
  | object fields => exact textsOfFields_eq fields
  | null => rfl
  | bool b => rfl
  | number n => rfl

theorem textsOfItems_eq (index : Nat) (items : List Value) :
    textsOfItems items = (leavesOfItems index items).map Leaf.text := by
  cases items with
  | nil => rfl
  | cons v rest =>
    rw [textsOfItems, leavesOfItems, List.map_append, List.map_map, texts_eq v, textsOfItems_eq _ rest]
    rfl

theorem textsOfFields_eq (fields : Entries Value) : textsOfFields fields = (leavesOfFields fields).map Leaf.text := by
  cases fields with
  | nil => rfl
  | cons field rest =>
    obtain ⟨name, v⟩ := field
    rw [textsOfFields, leavesOfFields, List.map_append, List.map_map, texts_eq v, textsOfFields_eq rest]
    rfl

end

end Value

namespace Template

/-- **A value is without findings exactly when all its texts are without issues.** -/
theorem findings_eq_nil_iff {v : Value} : findings v = [] ↔ ∀ template ∈ v.texts, issues template = [] := by
  rw [findings_eq_nil_iff_leaves, Value.texts_eq, List.forall_mem_map]

/-- **Filling a value fills its texts**, one by one. -/
theorem texts_fillValue (root v : Value) : (fillValue root v).texts = v.texts.map (fill root) := by
  rw [Value.texts_eq, leaves_fillValue, Value.texts_eq, List.map_map, List.map_map]
  rfl

end Template

end RecordGate
