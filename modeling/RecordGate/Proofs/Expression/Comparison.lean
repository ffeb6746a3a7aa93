import Mathlib.Data.Int.Order.Basic
import Mathlib.Data.String.Basic
import Mathlib.Order.Compare
import RecordGate.Proofs.Expression.Grammar
import RecordGate.Expression.Eval

/-!
# Comparisons fit together

Equality and order are defined apart.  Equality is asked of any two values, and looks into lists and objects; the
order is asked of two numbers or two texts.  A number may be an integer of either kind or a double, and zero has two
doubles; in a comparison it stands at the key of its double, inside of structures an integer and a double stay apart.
Two values that differ in the signs of their zeros at most are equal, so that equality is that of the values without
those signs.  Where there is an order, it is the one of the integers or of the texts, and equality agrees with it.

* `equalityKey`: equality is equality of keys, so it is an equivalence because equality of Lean is one.  The induction
  over values is made once, with those over their items and fields (`equal_iff_unsignedZeros_eq`).
* `Comparable`: two numbers or two texts.  All other pairs have no order (`order?_eq_none`), so none of the four order
  operators holds of them.
* `ComparesAs`: each of the two kinds is tied to a linear order, and every law is read off from there for both.

Main statement: `coherent_comparison`.
-/

namespace RecordGate

/-! ### Values without signs of zeros -/

/-- The double, where zero has no sign. -/
def Binary64.unsignedZero (x : Binary64) : Binary64 := if x.isZero then zero else x

theorem Binary64.same_iff_unsignedZero_eq {x y : Binary64} :
    x.same y = true ↔ x.unsignedZero = y.unsignedZero := by
  obtain ⟨s, m, hm⟩ := x
  obtain ⟨t, n, hn⟩ := y
  rw [same_iff]
  simp only [key, unsignedZero, isZero, zero, beq_iff_eq]
  by_cases hzero : m = 0
  · subst hzero
    by_cases hzero : n = 0
    · simp [hzero]
    · -- no other double has the key of the two zeros
      have hleft : (if s = true then -((0 : Nat) : Int) else (0 : Nat)) = 0 := by split <;> rfl
      have hright : (if t = true then -(n : Int) else n) ≠ 0 := by split <;> omega
      rw [hleft, if_pos rfl, if_neg hzero, Binary64.mk.injEq]
      constructor
      · intro h
        exact absurd h.symm hright
      · rintro ⟨-, h⟩
        exact absurd h.symm hzero
  · by_cases hzero' : n = 0
    · cases s <;> simp [hzero, hzero']
    · rw [if_neg hzero, if_neg hzero', Binary64.mk.injEq]
      cases s <;> cases t <;> simp <;> omega

/-- The number as a part of a structure, where zero has no sign. -/
def Number.unsignedZero : Number → Number
  | int i => int i
  | float x => float x.unsignedZero

theorem Number.equal_iff_unsignedZero_eq {m n : Number} :
    m.equal n = true ↔ m.unsignedZero = n.unsignedZero := by
  cases m with
  | int i =>
    cases n with
    | int j => simp [equal, unsignedZero]
    | float y => simp [equal, unsignedZero]
  | float x =>
    cases n with
    | int j => simp [equal, unsignedZero]
    | float y => simp [equal, unsignedZero, Binary64.same_iff_unsignedZero_eq]

namespace Value

mutual

/-- The value, where no zero has a sign. -/
def unsignedZeros : Value → Value
  | null => null
  | bool b => bool b
  | number n => number n.unsignedZero
  | text s => text s
  | list items => list (unsignedZerosOfItems items)
  | object fields => object (unsignedZerosOfFields fields)

def unsignedZerosOfItems : List Value → List Value
  | [] => []
  | v :: rest => v.unsignedZeros :: unsignedZerosOfItems rest

def unsignedZerosOfFields : Entries Value → Entries Value
  | [] => []
  | (name, v) :: rest => (name, v.unsignedZeros) :: unsignedZerosOfFields rest

end

mutual

/-- **Values are equal if they differ in the signs of zeros at most.** -/
theorem equal_iff_unsignedZeros_eq (v w : Value) : v.equal w = true ↔ v.unsignedZeros = w.unsignedZeros := by
  cases v with
  | null => cases w <;> simp [equal, unsignedZeros]
  | bool b => cases w <;> simp [equal, unsignedZeros]
  | number m => cases w <;> simp [equal, unsignedZeros, Number.equal_iff_unsignedZero_eq]
  | text s => cases w <;> simp [equal, unsignedZeros]
  | list xs =>
    cases w with
    | list ys => simp only [equal, unsignedZeros, list.injEq, equalItems_iff_unsignedZeros_eq xs ys]
    | _ => simp [equal, unsignedZeros]
  | object fs =>
    cases w with
    | object gs => simp only [equal, unsignedZeros, object.injEq, equalFields_iff_unsignedZeros_eq fs gs]
    | _ => simp [equal, unsignedZeros]

theorem equalItems_iff_unsignedZeros_eq (xs ys : List Value) :
    equalItems xs ys = true ↔ unsignedZerosOfItems xs = unsignedZerosOfItems ys := by
  cases xs with
  | nil => cases ys <;> simp [equalItems, unsignedZerosOfItems]
  | cons x xs =>
    cases ys with
    | nil => simp [equalItems, unsignedZerosOfItems]
    | cons y ys =>
      simp only [equalItems, unsignedZerosOfItems, Bool.and_eq_true, List.cons.injEq,
        equal_iff_unsignedZeros_eq x y, equalItems_iff_unsignedZeros_eq xs ys]

theorem equalFields_iff_unsignedZeros_eq (fs gs : Entries Value) :
    equalFields fs gs = true ↔ unsignedZerosOfFields fs = unsignedZerosOfFields gs := by
  cases fs with
  | nil => cases gs <;> simp [equalFields, unsignedZerosOfFields]
  | cons f fs =>
    obtain ⟨name, x⟩ := f
    cases gs with
    | nil => simp [equalFields, unsignedZerosOfFields]
    | cons g gs =>
      obtain ⟨name', y⟩ := g
      simp only [equalFields, unsignedZerosOfFields, Bool.and_eq_true, beq_iff_eq, List.cons.injEq,
        Prod.mk.injEq, equal_iff_unsignedZeros_eq x y, equalFields_iff_unsignedZeros_eq fs gs]

end

end Value

namespace Expression

theorem Comparison.decide_eq_true_iff {op : Comparison} {left right : Option Value} :
    op.decide left right = true ↔ ∃ v w, left = some v ∧ right = some w ∧ op.holds v w = true := by
  cases left with
  | none => simp [decide]
  | some v =>
    cases right with
    | none => simp [decide]
    | some w => simp [decide]

/-! ### Equality -/

/-- What a value is equal by: a number by its double, any other value part by part. -/
def equalityKey : Value → Value
  | .number n => .number (.float n.toBinary64.unsignedZero)
  | v => v.unsignedZeros

theorem looselyEqual_iff_equalityKey_eq (v w : Value) :
    looselyEqual v w = true ↔ equalityKey v = equalityKey w := by
  have hparts : ∀ v w : Value, v.equal w = true ↔ v.unsignedZeros = w.unsignedZeros :=
    Value.equal_iff_unsignedZeros_eq
  cases v with
  | number m =>
    cases w with
    | number n => simp [looselyEqual, equalityKey, Binary64.same_iff_unsignedZero_eq]
    | _ => simp [looselyEqual, equalityKey, Value.equal, Value.unsignedZeros]
  | _ =>
    cases w with
    | number n => simp [looselyEqual, equalityKey, Value.equal, Value.unsignedZeros]
    | _ => exact hparts _ _

theorem equivalence_looselyEqual : Equivalence fun v w => looselyEqual v w = true := by
  have hkey : (fun v w => looselyEqual v w = true) = fun v w => equalityKey v = equalityKey w := by
    funext v w
    exact propext (looselyEqual_iff_equalityKey_eq v w)
  rw [hkey]
  exact eq_equivalence.comap equalityKey

theorem looselyEqual_text_iff (s : String) (v : Value) : looselyEqual (.text s) v = true ↔ v = .text s := by
  cases v with
  | text t =>
    rw [Value.text.injEq, eq_comm (a := t)]
    simp [looselyEqual, Value.equal]
  | _ => simp [looselyEqual, Value.equal]

/-! ### Order -/

/-- Two numbers or two texts. -/
inductive Comparable : Value → Value → Prop where
  | numbers (m n : Number) : Comparable (.number m) (.number n)
  | texts (s t : String) : Comparable (.text s) (.text t)

theorem Comparable.symm {v w : Value} (h : Comparable v w) : Comparable w v := by
  cases h with
  | numbers m n => exact .numbers n m
  | texts s t => exact .texts t s

theorem order?_eq_none {v w : Value} (h : ¬ Comparable v w) : order? v w = none := by
  unfold order?
  split
  next m n => exact absurd (.numbers m n) h
  next s t => exact absurd (.texts s t) h
  next => rfl

/-- Two values compare like two things of a linear order. -/
structure ComparesAs {α : Type} [LinearOrder α] (v w : Value) (a b : α) : Prop where
  equal : Comparison.equal.holds v w = true ↔ a = b
  less : Comparison.less.holds v w = true ↔ a < b
  lessEqual : Comparison.lessEqual.holds v w = true ↔ a ≤ b
  greater : Comparison.greater.holds v w = true ↔ b < a
  greaterEqual : Comparison.greaterEqual.holds v w = true ↔ b ≤ a

theorem comparesAs_of_order? {α : Type} [LinearOrder α] {v w : Value} {a b : α}
    (horder : order? v w = some (compare a b)) (hequal : looselyEqual v w = true ↔ a = b) :
    ComparesAs v w a b where
  equal := hequal
  less := by
    rw [← compare_lt_iff_lt]
    simp [Comparison.holds, horder]
  lessEqual := by
    rw [le_iff_lt_or_eq, ← compare_lt_iff_lt, ← compare_eq_iff_eq]
    simp [Comparison.holds, horder]
  greater := by
    rw [← compare_gt_iff_gt]
    simp [Comparison.holds, horder]
  greaterEqual := by
    rw [le_iff_lt_or_eq, eq_comm (a := b), ← compare_gt_iff_gt, ← compare_eq_iff_eq]
    simp [Comparison.holds, horder]

theorem comparesAs_numbers (m n : Number) :
    ComparesAs (.number m) (.number n) m.toBinary64.key n.toBinary64.key :=
  comparesAs_of_order? rfl (Binary64.same_iff _ _)

theorem comparesAs_texts (s t : String) : ComparesAs (.text s) (.text t) s t :=
  comparesAs_of_order? rfl (by simp [looselyEqual, Value.equal])

theorem Comparable.exists_comparesAs {v w : Value} (h : Comparable v w) :
    ∃ (α : Type) (_ : LinearOrder α) (a b : α), ComparesAs v w a b := by
  cases h with
  | numbers m n => exact ⟨ℤ, _, _, _, comparesAs_numbers m n⟩
  | texts s t => exact ⟨String, _, _, _, comparesAs_texts s t⟩

theorem holds_order_eq_false {v w : Value} (h : ¬ Comparable v w) (o : Order) :
    o.comparison.holds v w = false := by
  cases o <;> simp [Order.comparison, Comparison.holds, order?_eq_none h]

theorem comparable_of_less {v w : Value} (h : Comparison.less.holds v w = true) : Comparable v w := by
  by_contra hnot
  exact Bool.false_ne_true ((holds_order_eq_false hnot .less).symm.trans h)

theorem holds_less_iff_greater (v w : Value) :
    Comparison.less.holds v w = true ↔ Comparison.greater.holds w v = true := by
  by_cases h : Comparable v w
  · cases h with
    | numbers m n => rw [(comparesAs_numbers m n).less, (comparesAs_numbers n m).greater]
    | texts s t => rw [(comparesAs_texts s t).less, (comparesAs_texts t s).greater]
  · have hsymm : ¬ Comparable w v := fun h' => h h'.symm
    have hless : Comparison.less.holds v w = false := holds_order_eq_false h .less
    have hgreater : Comparison.greater.holds w v = false := holds_order_eq_false hsymm .greater
    rw [hless, hgreater]

theorem holds_less_trans {u v w : Value} (huv : Comparison.less.holds u v = true)
    (hvw : Comparison.less.holds v w = true) : Comparison.less.holds u w = true := by
  cases comparable_of_less huv with
  | numbers l m =>
    cases comparable_of_less hvw with
    | numbers _ n =>
      rw [(comparesAs_numbers _ _).less] at huv hvw ⊢
      exact lt_trans huv hvw
  | texts r s =>
    cases comparable_of_less hvw with
    | texts _ t =>
      rw [(comparesAs_texts _ _).less] at huv hvw ⊢
      exact lt_trans huv hvw

/-! ### All six -/

/-- How the six comparisons of present values fit together. -/
structure Coherent (holds : Comparison → Value → Value → Prop) : Prop where
  equivalence : Equivalence (holds .equal)
  unequal_iff : ∀ v w, holds .unequal v w ↔ ¬ holds .equal v w
  exactly_one : ∀ v w, Comparable v w →
    (holds .less v w ∧ ¬ holds .equal v w ∧ ¬ holds .greater v w) ∨
    (¬ holds .less v w ∧ holds .equal v w ∧ ¬ holds .greater v w) ∨
    (¬ holds .less v w ∧ ¬ holds .equal v w ∧ holds .greater v w)
  lessEqual_iff : ∀ v w, Comparable v w → (holds .lessEqual v w ↔ holds .less v w ∨ holds .equal v w)
  greaterEqual_iff : ∀ v w, Comparable v w → (holds .greaterEqual v w ↔ holds .greater v w ∨ holds .equal v w)
  less_iff_greater : ∀ v w, holds .less v w ↔ holds .greater w v
  less_trans : ∀ u v w, holds .less u v → holds .less v w → holds .less u w
  incomparable : ∀ v w, ¬ Comparable v w → ∀ o : Order, ¬ holds o.comparison v w

/-- **The comparisons of a rule are coherent.**  On operands that are present, equality is an equivalence and inequality
its opposite; of two numbers or two texts exactly one is less, equal or greater, the other two comparisons say what
their signs say, and the order runs both ways and is transitive; values of other types have no order.  With an operand
that is missing nothing holds. -/
theorem coherent_comparison :
    Coherent (fun op v w => op.decide (some v) (some w) = true) ∧
      ∀ (op : Comparison) (operand : Option Value),
        op.decide none operand = false ∧ op.decide operand none = false := by
  constructor
  · refine {
      equivalence := equivalence_looselyEqual
      unequal_iff := ?unequal
      exactly_one := ?one
      lessEqual_iff := ?lessEqual
      greaterEqual_iff := ?greaterEqual
      less_iff_greater := holds_less_iff_greater
      less_trans := fun _ _ _ => holds_less_trans
      incomparable := ?incomparable }
    case unequal =>
      intro v w
      simp [Comparison.decide, Comparison.holds]
    case one =>
      intro v w h
      obtain ⟨α, _, a, b, hcompare⟩ := h.exists_comparesAs
      simp only [Comparison.decide, hcompare.less, hcompare.equal, hcompare.greater]
      rcases lt_trichotomy a b with hlt | rfl | hgt
      · exact .inl ⟨hlt, hlt.ne, hlt.asymm⟩
      · exact .inr (.inl ⟨lt_irrefl a, rfl, lt_irrefl a⟩)
      · exact .inr (.inr ⟨hgt.asymm, hgt.ne', hgt⟩)
    case lessEqual =>
      intro v w h
      obtain ⟨α, _, a, b, hcompare⟩ := h.exists_comparesAs
      simp only [Comparison.decide, hcompare.lessEqual, hcompare.less, hcompare.equal]
      exact le_iff_lt_or_eq
    case greaterEqual =>
      intro v w h
      obtain ⟨α, _, a, b, hcompare⟩ := h.exists_comparesAs
      simp only [Comparison.decide, hcompare.greaterEqual, hcompare.greater, hcompare.equal]
      rw [le_iff_lt_or_eq, eq_comm (a := b)]
    case incomparable =>
      intro v w h o
      simp [Comparison.decide, holds_order_eq_false h o]
  · intro op operand
    cases operand with
    | none => exact ⟨rfl, rfl⟩
    | some v => exact ⟨rfl, rfl⟩

end Expression

end RecordGate
