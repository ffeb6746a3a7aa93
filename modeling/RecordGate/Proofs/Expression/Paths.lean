import RecordGate.Expression.Basic

/-!
# The paths of a rule

A rule looks at its context through the paths that it mentions and in no other way.  Two contexts can be
compared by what these paths find in them: `Context.PartOf` says that one of them has, at every path, what
the other has there or nothing.

Where every path finds the same, the rule has the same value.  A comparison with a missing operand fails, so a
rule that uses neither negation nor comparisons of anything but literals and paths is monotone: what it grants
in the part, it grants in the whole.

A rule is positive if it has no negation and compares only literals and paths (`Tree.isPositive`).  Compound operands
of a comparison are excluded because one value may stand in where another is missing: `(a || b) == b` may hold only
where there is no `a`.  A leaf in the part has the value that it has in the whole or none
(`Tree.eval_leaf_of_partOf`), and a comparison that holds has both operands, so that it holds in the whole with the
same operands.

Main statements: `Tree.eval_congr`, `Tree.truthy_eval_of_partOf`.
-/

namespace RecordGate

/-! ### Contexts compared at paths -/

theorem Context.resolve?_key (c : Context) (name : String) (rest : List Segment) :
    c.resolve? ⟨.key name :: rest⟩ = (c.find? name).bind (Path.descend? rest) := rfl

theorem Context.resolve?_congr {c c' : Context} {p : Path}
    (h : ∀ name, p.head? = some name → c.find? name = c'.find? name) : c.resolve? p = c'.resolve? p := by
  obtain ⟨segments⟩ := p
  cases segments with
  | nil => rfl
  | cons segment rest =>
    cases segment with
    | index i => rfl
    | key name =>
      have hname := h name rfl
      rw [resolve?_key, resolve?_key, hname]

theorem Context.resolve?_eq_of_head? {c c' : Context} {p : Path} {name : String} (hhead : p.head? = some name)
    (h : c.find? name = c'.find? name) : c.resolve? p = c'.resolve? p := by
  apply resolve?_congr
  intro other hother
  rw [hhead] at hother
  obtain rfl := Option.some.inj hother
  exact h

/-- At each of the paths the first context has what the second has there, or nothing. -/
def Context.PartOf (paths : List Path) (c c' : Context) : Prop :=
  ∀ p ∈ paths, c.resolve? p = none ∨ c.resolve? p = c'.resolve? p

theorem Context.partOf_append {paths paths' : List Path} {c c' : Context} :
    PartOf (paths ++ paths') c c' ↔ PartOf paths c c' ∧ PartOf paths' c c' := by
  unfold PartOf
  constructor
  · intro h
    constructor
    · intro p hp
      exact h p (List.mem_append_left _ hp)
    · intro p hp
      exact h p (List.mem_append_right _ hp)
  · rintro ⟨h, h'⟩ p hp
    rcases List.mem_append.1 hp with hp | hp
    · exact h p hp
    · exact h' p hp

namespace Expression

/-! ### Paths and shapes of trees -/

namespace Tree

/-- The paths that a tree mentions, from left to right. -/
def paths : Tree → List Path
  | literal _ => []
  | path p => [p]
  | not e => e.paths
  | compare _ left right => left.paths ++ right.paths
  | and left right => left.paths ++ right.paths
  | or left right => left.paths ++ right.paths

/-- Whether a tree is a literal or a path. -/
def isLeaf : Tree → Bool
  | literal _ => true
  | path _ => true
  | _ => false

/-- Whether a tree has no negation, and literals or paths on both sides of its comparisons. -/
def isPositive : Tree → Bool
  | literal _ => true
  | path _ => true
  | not _ => false
  | compare _ left right => left.isLeaf && right.isLeaf
  | and left right => left.isPositive && right.isPositive
  | or left right => left.isPositive && right.isPositive

/-! ### Truth of connectives -/

theorem truthy_eval_and (c : Context) (left right : Tree) :
    truthy ((and left right).eval c) = (truthy (left.eval c) && truthy (right.eval c)) := by
  cases h : truthy (left.eval c) <;> simp [eval, h]

theorem truthy_eval_or (c : Context) (left right : Tree) :
    truthy ((or left right).eval c) = (truthy (left.eval c) || truthy (right.eval c)) := by
  cases h : truthy (left.eval c) <;> simp [eval, h]

theorem truthy_eval_compare (c : Context) (op : Comparison) (left right : Tree) :
    truthy ((compare op left right).eval c) = op.decide (left.eval c) (right.eval c) := rfl

end Tree

theorem passed_evaluate_of_parse {source : String} {e : Expression} (hparse : parse source = .ok e)
    (c : Context) : (evaluate source c).passed = truthy (e.tree.eval c) := by
  simp [evaluate, hparse, verdict, eval]

theorem Comparison.decide_of_part {op : Comparison} {left left' right right' : Option Value}
    (hleft : left = none ∨ left = left') (hright : right = none ∨ right = right')
    (h : op.decide left right = true) : op.decide left' right' = true := by
  rcases hleft with rfl | rfl
  · cases h
  · rcases hright with rfl | rfl
    · cases left <;> cases h
    · exact h

/-! ### Dependence -/

/-- **A tree depends on its paths alone.** -/
theorem Tree.eval_congr {c c' : Context} {e : Tree} (h : ∀ p ∈ e.paths, c.resolve? p = c'.resolve? p) :
    e.eval c = e.eval c' := by
  induction e with
  | literal v => rfl
  | path p => exact h p (List.mem_singleton.2 rfl)
  | not e ih =>
    simp only [eval, ih h]
  | compare op left right ihl ihr =>
    obtain ⟨hleft, hright⟩ := List.forall_mem_append.1 h
    simp only [eval, ihl hleft, ihr hright]
  | and left right ihl ihr =>
    obtain ⟨hleft, hright⟩ := List.forall_mem_append.1 h
    simp only [eval, ihl hleft, ihr hright]
  | or left right ihl ihr =>
    obtain ⟨hleft, hright⟩ := List.forall_mem_append.1 h
    simp only [eval, ihl hleft, ihr hright]

/-! ### Monotony -/

namespace Tree

variable {c c' : Context}

theorem eval_leaf_of_partOf {e : Tree} (hleaf : e.isLeaf = true) (h : Context.PartOf e.paths c c') :
    e.eval c = none ∨ e.eval c = e.eval c' := by
  cases e with
  | literal v => exact .inr rfl
  | path p => exact h p (List.mem_singleton.2 rfl)
  | not e => cases hleaf
  | compare op left right => cases hleaf
  | and left right => cases hleaf
  | or left right => cases hleaf

/-- **A positive tree that is true in a part is true in the whole.**  The comparisons carry the induction:
one that holds has found both operands. -/
theorem truthy_eval_of_partOf {e : Tree} (hpos : e.isPositive = true)
    (h : Context.PartOf e.paths c c') (htrue : truthy (e.eval c) = true) :
    truthy (e.eval c') = true := by
  induction e with
  | literal v => exact htrue
  | path p =>
    rcases eval_leaf_of_partOf rfl h with hnone | hsame
    · rw [hnone] at htrue
      cases htrue
    · rwa [← hsame]
  | not e => cases hpos
  | compare op left right =>
    obtain ⟨hleft, hright⟩ := Context.partOf_append.1 h
    simp only [isPositive, Bool.and_eq_true] at hpos
    rw [truthy_eval_compare] at htrue ⊢
    exact Comparison.decide_of_part (eval_leaf_of_partOf hpos.1 hleft)
      (eval_leaf_of_partOf hpos.2 hright) htrue
  | and left right ihl ihr =>
    obtain ⟨hleft, hright⟩ := Context.partOf_append.1 h
    simp only [isPositive, Bool.and_eq_true] at hpos
    rw [truthy_eval_and, Bool.and_eq_true] at htrue ⊢
    exact ⟨ihl hpos.1 hleft htrue.1, ihr hpos.2 hright htrue.2⟩
  | or left right ihl ihr =>
    obtain ⟨hleft, hright⟩ := Context.partOf_append.1 h
    simp only [isPositive, Bool.and_eq_true] at hpos
    rw [truthy_eval_or, Bool.or_eq_true] at htrue ⊢
    rcases htrue with htrue | htrue
    · exact .inl (ihl hpos.1 hleft htrue)
    · exact .inr (ihr hpos.2 hright htrue)

end Tree

end Expression

end RecordGate
