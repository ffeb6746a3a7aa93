import RecordGate.Proofs.Expression.Juxtaposition
import RecordGate.Proofs.Expression.Reading

/-!
# Texts that write tokens

A text writes a list of tokens if it is cut into them, wherever they stand in it.  Larger texts are put together
from smaller ones and write what these write; a text that writes the tokens of a derivation is a rule with the tree of
the derivation.

Main statements: `Writes.append`, `parse_of_writes`.
-/

namespace RecordGate.Expression

open RecordGate.Text

/-! ### Texts and their tokens -/

/-- A text writes a list of tokens, wherever they stand in it. -/
def Writes (cs : List Char) (ts : List Token) : Prop :=
  ∃ located, tokens cs = .ok located ∧ located.map Located.token = ts

namespace Writes

variable {cs ds : List Char} {ts us : List Token}

theorem append (h : Writes cs ts) (h' : Writes ds us) (hds : Separate ds) :
    Writes (cs ++ ds) (ts ++ us) := by
  obtain ⟨located, hl, rfl⟩ := h
  obtain ⟨located', hl', rfl⟩ := h'
  exact ⟨_, tokens_append hl hl' hds, by simp [Function.comp_def]⟩

theorem blank {c : Char} (hc : isBlank c = true) (h : Writes cs ts) : Writes (c :: cs) ts := by
  obtain ⟨located, hl, rfl⟩ := h
  refine ⟨located.map (Located.shift c.utf8Size), ?_, by simp [Function.comp_def]⟩
  rw [tokens, scan, if_pos hc]
  exact scan_shift hl _

theorem mark {c : Char} {t : Token} (hc : isBlank c = false) (ht : Lexeme c cs t 0)
    (h : Writes cs ts) : Writes (c :: cs) (t :: ts) := by
  obtain ⟨located, hl, rfl⟩ := h
  refine ⟨⟨t, 0⟩ :: located.map (Located.shift c.utf8Size), ?_, by simp [Function.comp_def]⟩
  rw [tokens, scan_cons_of_lexeme hc ht, scan_shift hl]
  rfl

theorem mark_two {c d : Char} {t : Token} (hc : isBlank c = false) (ht : Lexeme c (d :: cs) t 1)
    (h : Writes cs ts) : Writes (c :: d :: cs) (t :: ts) := by
  obtain ⟨located, hl, rfl⟩ := h
  refine ⟨⟨t, 0⟩ :: located.map (Located.shift (c.utf8Size + d.utf8Size)), ?_,
    by simp [Function.comp_def]⟩
  rw [tokens, scan_cons_of_lexeme hc ht, scan, Nat.add_assoc, scan_shift hl]
  rfl

theorem closing : Writes [')'] [.closing] := ⟨[⟨.closing, 0⟩], rfl, rfl⟩

theorem parenthesized (h : Writes cs ts) :
    Writes ('(' :: (cs ++ [')'])) (.opening :: (ts ++ [.closing])) :=
  mark (by decide) (.opening _) (h.append closing (separate_cons (by decide) []))

end Writes

/-! ### Parsing texts -/

theorem parse_of_writes {source : String} (hlen : byteLength source.toList ≤ maxLength)
    (d : Derivation (.chain .disjunction)) (hd : Writes source.toList d.tokens) :
    parse source = if d.depth ≤ maxDepth then .ok ⟨source, d.tree⟩ else .error .tooDeep := by
  obtain ⟨located, hl, hts⟩ := hd
  rw [parse, if_neg (Nat.not_lt.2 hlen), hl]
  simp only [treeOf_of_derivation d hts]
  by_cases h : d.depth ≤ maxDepth <;> simp only [h, if_true, if_false] <;> rfl

theorem treeOf_of_parse {source : String} {e : Expression} (h : parse source = .ok e) :
    byteLength source.toList ≤ maxLength ∧
      ∃ ts tree, tokens source.toList = .ok ts ∧ treeOf ts = .ok tree ∧ e = ⟨source, tree⟩ := by
  unfold parse at h
  dsimp only at h
  split at h
  next => cases h
  next hlength =>
    split at h
    next => cases h
    next ts hts =>
      cases htree : treeOf ts with
      | error err => simp [htree, Except.map] at h
      | ok tree =>
        simp only [htree, Except.map, Except.ok.injEq] at h
        exact ⟨Nat.not_lt.1 hlength, ts, tree, hts, htree, h.symm⟩

theorem derivation_of_parse {source : String} {e : Expression} (h : parse source = .ok e) :
    ∃ d : Derivation (.chain .disjunction), Writes source.toList d.tokens ∧ e = ⟨source, d.tree⟩ := by
  obtain ⟨-, located, tree, hl, htree, rfl⟩ := treeOf_of_parse h
  obtain ⟨d, hts, -, rfl⟩ := derivation_of_treeOf htree
  exact ⟨d, ⟨located, hl, hts.symm⟩, rfl⟩

end RecordGate.Expression
