import RecordGate.Proofs.Expression.Writing
import RecordGate.Proofs.Expression.Paths

/-!
# What a rule mentions

The paths of a rule stand in its text.  Its tree has the same ones in the same order: parentheses leave no
node, and an operator joins two parts without adding anything of its own.  The verdict on a text therefore
depends on where the paths in it lead and on nothing else that a context binds, and a text that is no rule
has the same verdict everywhere.

Main statement: `evaluate_congr`.
-/

namespace RecordGate.Expression

/-! ### Paths in a text -/

def Token.path? : Token → Option Path
  | path p => some p
  | _ => none

/-- The paths that stand in a text, from left to right; a text that cannot be cut into tokens has none. -/
def mentioned (source : String) : List Path :=
  match tokens source.toList with
  | .ok ts => (ts.map Located.token).filterMap Token.path?
  | .error _ => []

theorem Link.path?_token {k : ChainLevel} (o : Link k) : o.token.path? = none := by
  cases o <;> rfl

theorem Link.paths_join {k : ChainLevel} (o : Link k) (left right : Tree) :
    (o.join left right).paths = left.paths ++ right.paths := by
  cases o <;> rfl

theorem Order.path?_token (o : Order) : o.token.path? = none := by
  cases o <;> rfl

theorem Derivation.paths_tree {p : Phrase} (d : Derivation p) :
    d.tree.paths = d.tokens.filterMap Token.path? := by
  induction d with
  | single operand ih => exact ih
  | link left o right ihl ihr =>
    rw [tree, tokens, o.paths_join, List.filterMap_append, List.filterMap_cons_none o.path?_token, ihl, ihr]
  | alone operand ih => exact ih
  | ordered left o right ihl ihr =>
    rw [tree, tokens, Tree.paths, List.filterMap_append, List.filterMap_cons_none o.path?_token, ihl, ihr]
  | not operand ih => exact ih
  | primary operand ih => exact ih
  | leaf l => cases l <;> rfl
  | group inner ih =>
    have hclosing : [Token.closing].filterMap Token.path? = [] := rfl
    rw [tree, tokens, List.filterMap_cons_none rfl, List.filterMap_append, hclosing, List.append_nil, ih]

theorem paths_eq_mentioned {source : String} {e : Expression} (hparse : parse source = .ok e) :
    e.tree.paths = mentioned source := by
  obtain ⟨d, ⟨ts, htokens, hts⟩, rfl⟩ := derivation_of_parse hparse
  simp only [mentioned, htokens]
  rw [hts, d.paths_tree]

/-! ### Dependence -/

/-- **A verdict depends on the paths in the text alone.** -/
theorem evaluate_congr {source : String} {c c' : Context}
    (h : ∀ p ∈ mentioned source, c.resolve? p = c'.resolve? p) : evaluate source c = evaluate source c' := by
  unfold evaluate
  cases hparse : parse source with
  | error e => rfl
  | ok e =>
    rw [← paths_eq_mentioned hparse] at h
    simp only [verdict, eval, Tree.eval_congr h]

end RecordGate.Expression
