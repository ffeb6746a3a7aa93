import Mathlib.Data.List.Perm.Subperm
import RecordGate.Proofs.Expression.Cutting
import RecordGate.Proofs.Expression.Paths
import RecordGate.Proofs.Expression.Writing

/-!
# What the limits of a rule bound

A rule has a greatest size and a greatest depth.  The size bounds its tokens, which all start at different bytes, and
the tokens bound the nodes of its tree: every node has a token of its own, and parentheses have no node.  The depth
bounds the negations above a leaf.  It does not bound the height of the tree, as chains grow to the left without going
down a level.

Evaluation comes to a node at most once, so that the tokens bound what it visits, whatever the context.

* `Tree.nodes` lists the nodes of a tree and `Tree.branches` its branches, so that all counts are counts in lists.
* `Tree.Joins` holds what is common to the three kinds of trees with two parts, so that each induction has one case
  for them.
* `Derivation.leaves` are the leaves of a derivation; they are the operands among its tokens
  (`Derivation.filter_isOperand_tokens`) and the leaves of its tree (`Derivation.filter_isLeaf_nodes`), both in order.
* `Tree.walk` evaluates and notes each node that it comes to.  `Tree.notes_walk`: it gives the value that evaluation
  gives, and what it notes is a part of the nodes, in order, as a connective may skip its right side.

Main statement: `parse_within_limits`.
-/

namespace RecordGate.Expression

open RecordGate.Text

/-! ### Nodes and branches -/

namespace Tree

/-- The nodes of a tree, each with what is below it: a node before its parts, the left part before the right one. -/
def nodes : Tree → List Tree
  | literal v => [literal v]
  | path p => [path p]
  | not e => not e :: e.nodes
  | compare c left right => compare c left right :: (left.nodes ++ right.nodes)
  | and left right => and left right :: (left.nodes ++ right.nodes)
  | or left right => or left right :: (left.nodes ++ right.nodes)

/-- The ways from the root of a tree to its leaves, from left to right, each with all nodes on it. -/
def branches : Tree → List (List Tree)
  | literal v => [[literal v]]
  | path p => [[path p]]
  | not e => e.branches.map (not e :: ·)
  | compare c left right => (left.branches ++ right.branches).map (compare c left right :: ·)
  | and left right => (left.branches ++ right.branches).map (and left right :: ·)
  | or left right => (left.branches ++ right.branches).map (or left right :: ·)

def isNegation : Tree → Bool
  | not _ => true
  | _ => false

/-- Whether a tree joins two parts. -/
def isBinary : Tree → Bool
  | compare _ _ _ => true
  | and _ _ => true
  | or _ _ => true
  | _ => false

/-- A tree that joins two others. -/
structure Joins (e left right : Tree) : Prop where
  nodes_eq : e.nodes = e :: (left.nodes ++ right.nodes)
  branches_eq : e.branches = (left.branches ++ right.branches).map (e :: ·)
  isBinary_eq : e.isBinary = true
  isLeaf_eq : e.isLeaf = false
  isNegation_eq : e.isNegation = false

theorem joins_compare (c : Comparison) (left right : Tree) : Joins (compare c left right) left right :=
  ⟨rfl, rfl, rfl, rfl, rfl⟩

theorem joins_and (left right : Tree) : Joins (and left right) left right := ⟨rfl, rfl, rfl, rfl, rfl⟩

theorem joins_or (left right : Tree) : Joins (or left right) left right := ⟨rfl, rfl, rfl, rfl, rfl⟩

namespace Joins

variable {e left right : Tree}

theorem length_nodes (h : Joins e left right) :
    e.nodes.length = left.nodes.length + 1 + right.nodes.length := by
  rw [h.nodes_eq, List.length_cons, List.length_append]
  omega

theorem filter_isLeaf_nodes (h : Joins e left right) :
    e.nodes.filter isLeaf = left.nodes.filter isLeaf ++ right.nodes.filter isLeaf := by
  rw [h.nodes_eq, List.filter_cons_of_neg (by simp [h.isLeaf_eq]), List.filter_append]

theorem countP_isLeaf_nodes (h : Joins e left right) (hl : left.nodes.countP isLeaf = left.nodes.countP isBinary + 1)
    (hr : right.nodes.countP isLeaf = right.nodes.countP isBinary + 1) :
    e.nodes.countP isLeaf = e.nodes.countP isBinary + 1 := by
  rw [h.nodes_eq, List.countP_cons_of_neg (by simp [h.isLeaf_eq]), List.countP_cons_of_pos h.isBinary_eq,
    List.countP_append, List.countP_append]
  omega

theorem countP_isNegation_le {n m : Nat} (h : Joins e left right)
    (hl : ∀ branch ∈ left.branches, branch.countP isNegation ≤ n)
    (hr : ∀ branch ∈ right.branches, branch.countP isNegation ≤ m) :
    ∀ branch ∈ e.branches, branch.countP isNegation ≤ max n m := by
  intro branch hbranch
  rw [h.branches_eq] at hbranch
  obtain ⟨below, hbelow, rfl⟩ := List.mem_map.1 hbranch
  rw [List.countP_cons_of_neg (by simp [h.isNegation_eq])]
  rcases List.mem_append.1 hbelow with hleft | hright
  · exact Nat.le_trans (hl below hleft) (Nat.le_max_left n m)
  · exact Nat.le_trans (hr below hright) (Nat.le_max_right n m)

end Joins

/-- A tree has one more leaf than nodes that join two parts; negations do not count. -/
theorem countP_isLeaf_nodes (e : Tree) : e.nodes.countP isLeaf = e.nodes.countP isBinary + 1 := by
  induction e with
  | literal v => rfl
  | path p => rfl
  | not e ih =>
    rw [nodes, List.countP_cons_of_neg (by simp [isLeaf]), List.countP_cons_of_neg (by simp [isBinary])]
    exact ih
  | compare c left right ihl ihr => exact (joins_compare c left right).countP_isLeaf_nodes ihl ihr
  | and left right ihl ihr => exact (joins_and left right).countP_isLeaf_nodes ihl ihr
  | or left right ihl ihr => exact (joins_or left right).countP_isLeaf_nodes ihl ihr

end Tree

/-! ### Tokens and nodes -/

/-- Whether a token is a literal or a path. -/
def Token.isOperand : Token → Bool
  | text _ => true
  | number _ => true
  | yes => true
  | no => true
  | null => true
  | path _ => true
  | _ => false

theorem Leaf.isOperand_token (l : Leaf) : l.token.isOperand = true := by
  cases l <;> rfl

theorem Leaf.nodes_tree (l : Leaf) : l.tree.nodes = [l.tree] := by
  cases l <;> rfl

theorem Leaf.branches_tree (l : Leaf) : l.tree.branches = [[l.tree]] := by
  cases l <;> rfl

theorem Leaf.isLeaf_tree (l : Leaf) : l.tree.isLeaf = true := by
  cases l <;> rfl

theorem Leaf.isNegation_tree (l : Leaf) : l.tree.isNegation = false := by
  cases l <;> rfl

theorem Link.isOperand_token {k : ChainLevel} (o : Link k) : o.token.isOperand = false := by
  cases o <;> rfl

theorem Link.joins {k : ChainLevel} (o : Link k) (left right : Tree) : (o.join left right).Joins left right := by
  cases o with
  | or => exact Tree.joins_or left right
  | and => exact Tree.joins_and left right
  | equal => exact Tree.joins_compare .equal left right
  | unequal => exact Tree.joins_compare .unequal left right

theorem Order.isOperand_token (o : Order) : o.token.isOperand = false := by
  cases o <;> rfl

namespace Derivation

/-- The literals and paths of a derivation, from left to right. -/
def leaves : {p : Phrase} → Derivation p → List Leaf
  | _, single operand => operand.leaves
  | _, link left _ right => left.leaves ++ right.leaves
  | _, alone operand => operand.leaves
  | _, ordered left _ right => left.leaves ++ right.leaves
  | _, not operand => operand.leaves
  | _, primary operand => operand.leaves
  | _, leaf l => [l]
  | _, group inner => inner.leaves

variable {p : Phrase}

theorem filter_isOperand_tokens (d : Derivation p) : d.tokens.filter Token.isOperand = d.leaves.map Leaf.token := by
  induction d with
  | single operand ih => exact ih
  | link left o right ihl ihr =>
    rw [tokens, leaves, List.filter_append, List.filter_cons_of_neg (by simp [o.isOperand_token]), ihl, ihr,
      List.map_append]
  | alone operand ih => exact ih
  | ordered left o right ihl ihr =>
    rw [tokens, leaves, List.filter_append, List.filter_cons_of_neg (by simp [o.isOperand_token]), ihl, ihr,
      List.map_append]
  | not operand ih => exact ih
  | primary operand ih => exact ih
  | leaf l => exact List.filter_cons_of_pos l.isOperand_token
  | group inner ih =>
    have hclosing : [Token.closing].filter Token.isOperand = [] := rfl
    rw [tokens, leaves, List.filter_cons_of_neg (by decide), List.filter_append, hclosing, List.append_nil, ih]

theorem filter_isLeaf_nodes (d : Derivation p) : d.tree.nodes.filter Tree.isLeaf = d.leaves.map Leaf.tree := by
  induction d with
  | single operand ih => exact ih
  | link left o right ihl ihr => rw [tree, leaves, (o.joins _ _).filter_isLeaf_nodes, ihl, ihr, List.map_append]
  | alone operand ih => exact ih
  | ordered left o right ihl ihr =>
    rw [tree, leaves, (Tree.joins_compare _ _ _).filter_isLeaf_nodes, ihl, ihr, List.map_append]
  | not operand ih => exact ih
  | primary operand ih => exact ih
  | leaf l =>
    rw [tree, l.nodes_tree]
    exact List.filter_cons_of_pos l.isLeaf_tree
  | group inner ih => exact ih

/-- Every node has a token of its own. -/
theorem length_nodes_le (d : Derivation p) : d.tree.nodes.length ≤ d.tokens.length := by
  induction d with
  | single operand ih => exact ih
  | link left o right ihl ihr =>
    rw [tree, tokens, (o.joins _ _).length_nodes, List.length_append, List.length_cons]
    omega
  | alone operand ih => exact ih
  | ordered left o right ihl ihr =>
    rw [tree, tokens, (Tree.joins_compare _ _ _).length_nodes, List.length_append, List.length_cons]
    omega
  | not operand ih => exact Nat.succ_le_succ ih
  | primary operand ih => exact ih
  | leaf l =>
    rw [tree, l.nodes_tree]
    exact Nat.le_refl 1
  | group inner ih =>
    rw [tree, tokens, List.length_cons, List.length_append]
    omega

theorem countP_isNegation_le (d : Derivation p) :
    ∀ branch ∈ d.tree.branches, branch.countP Tree.isNegation ≤ d.depth := by
  induction d with
  | single operand ih => exact ih
  | link left o right ihl ihr => exact (o.joins left.tree right.tree).countP_isNegation_le ihl ihr
  | alone operand ih => exact ih
  | ordered left o right ihl ihr =>
    exact (Tree.joins_compare o.comparison left.tree right.tree).countP_isNegation_le ihl ihr
  | not operand ih =>
    intro branch hbranch
    obtain ⟨below, hbelow, rfl⟩ := List.mem_map.1 hbranch
    rw [List.countP_cons_of_pos rfl]
    exact Nat.succ_le_succ (ih below hbelow)
  | primary operand ih => exact ih
  | leaf l =>
    intro branch hbranch
    rw [tree, l.branches_tree] at hbranch
    rw [List.mem_singleton.1 hbranch, List.countP_cons_of_neg (by simp [l.isNegation_tree])]
    exact Nat.le_refl 0
  | group inner ih =>
    intro branch hbranch
    exact Nat.le_succ_of_le (ih branch hbranch)

end Derivation

/-! ### Evaluation, node by node -/

/-- Computations that note nodes, behind those that are noted already. -/
abbrev Noting (α : Type) := StateM (List Tree) α

def visit (e : Tree) : Noting Unit := modify (· ++ [e])

/-- Evaluation that notes every node it comes to. -/
def Tree.walk (context : Context) : Tree → Noting (Option Value)
  | literal v => do
    visit (literal v)
    return some v
  | path p => do
    visit (path p)
    return context.resolve? p
  | not e => do
    visit (not e)
    let value ← e.walk context
    return some (.bool !truthy value)
  | compare c left right => do
    visit (compare c left right)
    let leftValue ← left.walk context
    let rightValue ← right.walk context
    return some (.bool (c.decide leftValue rightValue))
  | and left right => do
    visit (and left right)
    let value ← left.walk context
    if truthy value then right.walk context else return value
  | or left right => do
    visit (or left right)
    let value ← left.walk context
    if truthy value then return value else right.walk context

/-- The computation has the result `a`, and notes some of the nodes in their order, none more often than it is
listed. -/
def Notes {α : Type} (x : Noting α) (a : α) (nodes : List Tree) : Prop :=
  ∀ noted, ∃ visited, x.run noted = (a, noted ++ visited) ∧ visited.Sublist nodes

namespace Notes

variable {α β : Type} {x : Noting α} {f : α → Noting β} {a : α} {b : β} {ns ms : List Tree}

theorem pure (a : α) : Notes (Pure.pure a) a [] := by
  intro noted
  exact ⟨[], by rw [List.append_nil]; rfl, List.Sublist.refl []⟩

theorem visit (e : Tree) : Notes (visit e) () [e] := by
  intro noted
  exact ⟨[e], rfl, List.Sublist.refl [e]⟩

theorem bind (hx : Notes x a ns) (hf : Notes (f a) b ms) : Notes (x >>= f) b (ns ++ ms) := by
  intro noted
  obtain ⟨visited, hrun, hsub⟩ := hx noted
  obtain ⟨visited', hrun', hsub'⟩ := hf (noted ++ visited)
  refine ⟨visited ++ visited', ?_, hsub.append hsub'⟩
  rw [StateT.run_bind, hrun]
  change (f a).run (noted ++ visited) = _
  rw [hrun', List.append_assoc]

theorem map (f : α → β) (hx : Notes x a ns) : Notes (x >>= fun value => Pure.pure (f value)) (f a) ns := by
  have h := hx.bind (f := fun value => Pure.pure (f value)) (pure (f a))
  rwa [List.append_nil] at h

theorem mono (h : Notes x a ns) (hsub : ns.Sublist ms) : Notes x a ms := by
  intro noted
  obtain ⟨visited, hrun, hvisited⟩ := h noted
  exact ⟨visited, hrun, hvisited.trans hsub⟩

end Notes

/-- **Evaluation comes to each node at most once**, in their order, and finds the value of the tree. -/
theorem Tree.notes_walk (context : Context) (e : Tree) : Notes (e.walk context) (e.eval context) e.nodes := by
  induction e with
  | literal v => exact (Notes.visit _).bind (.pure _)
  | path p => exact (Notes.visit _).bind (.pure _)
  | not e ih => exact (Notes.visit _).bind (ih.map _)
  | compare c left right ihl ihr => exact (Notes.visit _).bind (ihl.bind (ihr.map _))
  | and left right ihl ihr =>
    have hright : Notes (if truthy (left.eval context) then right.walk context else return left.eval context)
        ((and left right).eval context) right.nodes := by
      rw [eval]
      split
      next => exact ihr
      next => exact (Notes.pure _).mono (List.nil_sublist _)
    exact (Notes.visit _).bind (ihl.bind hright)
  | or left right ihl ihr =>
    have hright : Notes (if truthy (left.eval context) then return left.eval context else right.walk context)
        ((or left right).eval context) right.nodes := by
      rw [eval]
      split
      next => exact (Notes.pure _).mono (List.nil_sublist _)
      next => exact ihr
    exact (Notes.visit _).bind (ihl.bind hright)

/-! ### Limits -/

/-- A text has no more tokens than bytes, as they start at different ones. -/
theorem length_le_of_tokens {cs : List Char} {ts : List Located} (h : tokens cs = .ok ts) :
    ts.length ≤ byteLength cs := by
  have hnodup : (ts.map Located.offset).Nodup :=
    List.pairwise_map.2 ((Cut.of_scan h).pairwise_offset.imp Nat.ne_of_lt)
  have hsubset : ts.map Located.offset ⊆ List.range (byteLength cs) := by
    intro offset hoffset
    obtain ⟨t, ht, rfl⟩ := List.mem_map.1 hoffset
    obtain ⟨c, after, n, hstands, -, -⟩ := standsAt_of_mem_scan h ht
    have hlt := hstands.lt
    rw [Nat.zero_add] at hlt
    exact List.mem_range.2 hlt
  have hlength := (List.subperm_of_subset hnodup hsubset).length_le
  rwa [List.length_map, List.length_range] at hlength

/-- What the limits on a rule bound in a tree and the tokens that it is read from: the nodes by the tokens, and these by
the greatest size of a rule; the negations on every branch; the leaves, which are one more than the nodes that join two
parts and stand for the literals and paths among the tokens, in their order; and what evaluation visits. -/
structure WithinLimits (ts : List Token) (e : Tree) : Prop where
  nodes_le : e.nodes.length ≤ ts.length ∧ ts.length ≤ 4096
  negations_le : ∀ branch ∈ e.branches, branch.countP Tree.isNegation ≤ 64
  leaves_eq : e.nodes.countP Tree.isLeaf = e.nodes.countP Tree.isBinary + 1
  leaves_read : ∃ leaves : List Leaf,
    e.nodes.filter Tree.isLeaf = leaves.map Leaf.tree ∧ ts.filter Token.isOperand = leaves.map Leaf.token
  visited_le : ∀ context, ∃ visited,
    (e.walk context).run [] = (e.eval context, visited) ∧ visited.Sublist e.nodes ∧ visited.length ≤ 4096

/-- **A rule that is parsed stays within the limits.** -/
theorem parse_within_limits {source : String} {e : Expression} (h : parse source = .ok e) :
    ∃ ts, tokens source.toList = .ok ts ∧ WithinLimits (ts.map Located.token) e.tree := by
  obtain ⟨hlength, ts, tree, htokens, htree, rfl⟩ := treeOf_of_parse h
  obtain ⟨d, hts, hdepth, rfl⟩ := derivation_of_treeOf htree
  have hnodes : d.tree.nodes.length ≤ ts.length := by
    have hle := d.length_nodes_le
    rwa [hts, List.length_map] at hle
  have hsize : ts.length ≤ 4096 := Nat.le_trans (length_le_of_tokens htokens) hlength
  refine ⟨ts, htokens, ?_⟩
  exact {
    nodes_le := by
      rw [List.length_map]
      exact ⟨hnodes, hsize⟩
    negations_le := by
      intro branch hbranch
      exact Nat.le_trans (d.countP_isNegation_le branch hbranch) hdepth
    leaves_eq := d.tree.countP_isLeaf_nodes
    leaves_read := ⟨d.leaves, d.filter_isLeaf_nodes, hts ▸ d.filter_isOperand_tokens⟩
    visited_le := by
      intro context
      obtain ⟨visited, hrun, hsub⟩ := d.tree.notes_walk context []
      exact ⟨visited, hrun, hsub, Nat.le_trans hsub.length_le (Nat.le_trans hnodes hsize)⟩ }

/-- A negation and parentheses around a comparison: six tokens, of which the parentheses have no node. -/
theorem parse_within_limits_negated :
    ∃ e, parse "!(a < 'x')" = .ok e ∧ e.tree.nodes.length = 4 ∧
      ∃ ts, tokens "!(a < 'x')".toList = .ok ts ∧ WithinLimits (ts.map Located.token) e.tree := by
  have hlength : ¬ maxLength < byteLength "!(a < 'x')".toList := by decide +kernel
  have htokens : tokens "!(a < 'x')".toList =
      .ok [⟨.not, 0⟩, ⟨.opening, 1⟩, ⟨.path ⟨[.key "a"]⟩, 2⟩, ⟨.less, 4⟩, ⟨.text "x", 6⟩, ⟨.closing, 9⟩] := by
    decide +kernel
  have hparse : parse "!(a < 'x')" =
      .ok ⟨"!(a < 'x')", .not (.compare .less (.path ⟨[.key "a"]⟩) (.literal (.text "x")))⟩ := by
    rw [parse, if_neg hlength, htokens]
    rfl
  exact ⟨_, hparse, rfl, parse_within_limits hparse⟩

end RecordGate.Expression
