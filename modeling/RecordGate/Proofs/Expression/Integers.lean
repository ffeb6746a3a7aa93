import RecordGate.Proofs.Binary64.Rounding
import RecordGate.Proofs.Expression.Comparison
import RecordGate.Proofs.Expression.Paths

/-!
# Comparing integers

Rules compare numbers as doubles: number literals are doubles, `3` and `3.0` are to be equal, and one order for
all numbers keeps equality an equivalence.  Integers of 64 bits are held exactly by a context, and become the
doubles nearest to them when they are compared.  Up to `2 ^ 53` nothing is lost by that.  Above, different integers
may have one nearest double and are then equal, but two integers never change places.

Main statements: `comparesLike_nearest`, `not_comparesLike_of_large`.
-/

namespace RecordGate

open RecordGate.Expression RecordGate.Binary64

/-- Rules that compare `x` with `y` pass like comparisons of the two given things. -/
structure Context.ComparesLike {α : Type} [LinearOrder α] (c : Context) (u v : α) : Prop where
  equal : (evaluate "x == y" c).passed = true ↔ u = v
  less : (evaluate "x < y" c).passed = true ↔ u < v
  lessEqual : (evaluate "x <= y" c).passed = true ↔ u ≤ v

/-! ### Numbers in a comparison -/

section

variable {c : Context} {v w : Value}

theorem passed_compare {source : String} {op : Comparison}
    (hparse : parse source = .ok ⟨source, .compare op (.path ⟨[.key "x"]⟩) (.path ⟨[.key "y"]⟩)⟩)
    (hx : c.find? "x" = some v) (hy : c.find? "y" = some w) : (evaluate source c).passed = op.holds v w := by
  have hleft : c.resolve? ⟨[.key "x"]⟩ = some v := by
    rw [Context.resolve?_key, hx]
    rfl
  have hright : c.resolve? ⟨[.key "y"]⟩ = some w := by
    rw [Context.resolve?_key, hy]
    rfl
  rw [passed_evaluate_of_parse hparse, Tree.truthy_eval_compare, Tree.eval, Tree.eval, hleft, hright]
  rfl

variable {m n : Number}

theorem holds_equal_iff :
    Comparison.equal.holds (.number m) (.number n) = true ↔ m.toBinary64.toRat = n.toBinary64.toRat :=
  (comparesAs_numbers m n).equal.trans toRat_eq_iff.symm

theorem holds_less_iff :
    Comparison.less.holds (.number m) (.number n) = true ↔ m.toBinary64.toRat < n.toBinary64.toRat :=
  (comparesAs_numbers m n).less.trans toRat_lt_iff.symm

theorem holds_lessEqual_iff :
    Comparison.lessEqual.holds (.number m) (.number n) = true ↔ m.toBinary64.toRat ≤ n.toBinary64.toRat :=
  (comparesAs_numbers m n).lessEqual.trans toRat_le_iff.symm

/-- Numbers of both kinds compare like the doubles that they count as. -/
theorem Context.comparesLike_toRat (hx : c.find? "x" = some (.number m)) (hy : c.find? "y" = some (.number n)) :
    c.ComparesLike m.toBinary64.toRat n.toBinary64.toRat where
  equal := by rw [passed_compare (by rfl) hx hy, holds_equal_iff]
  less := by rw [passed_compare (by rfl) hx hy, holds_less_iff]
  lessEqual := by rw [passed_compare (by rfl) hx hy, holds_lessEqual_iff]

end

/-! ### Integers -/

/-- An integer that is exactly some double. -/
def Binary64.Holds (i : ℤ) : Prop := ∃ x : Binary64, x.toRat = i

theorem Whole.nearest (i : Whole) : Nearest (ofInt i.val) i.val := by
  have hlower := i.lower
  have hupper := i.upper
  apply nearest_ofInt
  omega

/-- **Integers compare like the doubles nearest to them.**  Of the doubles nearest to two integers of 64 bits, a tie
going to the even significand, the comparisons of `x` with `y` pass that hold of these doubles.  They pass like
comparisons of the integers where both are doubles, as all up to `2 ^ 53` are; and in any case equal integers are
equal, the smaller of two integers is not greater, and what is less is smaller. -/
theorem comparesLike_nearest (a b : Whole) {c : Context} (hx : c.find? "x" = some (.number (.int a)))
    (hy : c.find? "y" = some (.number (.int b))) :
    (∃ x y : Binary64, Nearest x a.val ∧ Nearest y b.val ∧ c.ComparesLike x.toRat y.toRat) ∧
    (Holds a.val → Holds b.val → c.ComparesLike a.val b.val) ∧
    (∀ i : ℤ, i.natAbs ≤ 2 ^ 53 → Holds i) ∧
    (a.val = b.val → (evaluate "x == y" c).passed = true) ∧
    (a.val ≤ b.val → (evaluate "x <= y" c).passed = true) ∧
    ((evaluate "x < y" c).passed = true → a.val < b.val) := by
  have hlike : c.ComparesLike (ofInt a.val).toRat (ofInt b.val).toRat := Context.comparesLike_toRat hx hy
  have hle : a.val ≤ b.val → (ofInt a.val).toRat ≤ (ofInt b.val).toRat := by
    intro h
    rcases Int.lt_or_eq_of_le h with hlt | heq
    · exact a.nearest.toRat_le b.nearest (by exact_mod_cast hlt)
    · rw [heq]
  have hge : b.val ≤ a.val → (ofInt b.val).toRat ≤ (ofInt a.val).toRat := by
    intro h
    rcases Int.lt_or_eq_of_le h with hlt | heq
    · exact b.nearest.toRat_le a.nearest (by exact_mod_cast hlt)
    · rw [heq]
  refine ⟨⟨_, _, a.nearest, b.nearest, hlike⟩, ?_, fun i => exists_toRat_eq, ?_, ?_, ?_⟩
  · intro ha hb
    have hlike' := hlike
    rw [a.nearest.toRat_eq ha, b.nearest.toRat_eq hb] at hlike'
    exact ⟨hlike'.equal.trans Int.cast_inj, hlike'.less.trans Int.cast_lt, hlike'.lessEqual.trans Int.cast_le⟩
  · intro heq
    rw [hlike.equal, heq]
  · intro h
    exact hlike.lessEqual.2 (hle h)
  · intro hpassed
    by_contra hnot
    exact absurd (hlike.less.1 hpassed) (not_lt.2 (hge (not_lt.1 hnot)))

/-- The context that binds `x` and `y` to integers. -/
def Context.ofWholes (x y : Whole) : Context :=
  (Context.empty.bind "x" (.number (.int x))).bind "y" (.number (.int y))

/-- The integers around `-2 ^ 53` that are doubles are told apart. -/
theorem comparesLike_nearest_held :
    let a : Whole := ⟨-9007199254740992, by decide, by decide⟩
    let b : Whole := ⟨-9007199254740991, by decide, by decide⟩
    (Context.ofWholes a b).ComparesLike a.val b.val := by
  intro a b
  obtain ⟨-, hexact, hheld, -⟩ := comparesLike_nearest a b (c := .ofWholes a b) rfl rfl
  exact hexact (hheld a.val (by decide)) (hheld b.val (by decide))

/-- Above `2 ^ 53` two integers next to each other are equal in a rule, and the smaller one is not less. -/
theorem not_comparesLike_of_large :
    let a : Whole := ⟨9007199254740992, by decide, by decide⟩
    let b : Whole := ⟨9007199254740993, by decide, by decide⟩
    a.val < b.val ∧ (evaluate "x == y" (.ofWholes a b)).passed = true ∧
      (evaluate "x < y" (.ofWholes a b)).passed = false ∧ ¬ (Context.ofWholes a b).ComparesLike a.val b.val := by
  intro a b
  have hequal : (evaluate "x == y" (.ofWholes a b)).passed = true := by decide +kernel
  have hless : (evaluate "x < y" (.ofWholes a b)).passed = false := by decide +kernel
  refine ⟨by decide, hequal, hless, ?_⟩
  intro hlike
  exact absurd (hlike.equal.1 hequal) (by decide)

end RecordGate
