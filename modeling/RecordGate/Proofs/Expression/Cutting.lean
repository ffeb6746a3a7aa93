import RecordGate.Proofs.Expression.Places

/-!
# Texts cut into tokens

The tokens of a text are found part by part: where a blank or a parenthesis stands between two parts, each of them has
the tokens that it has alone, and the offsets say where they stand in the whole.  A character that starts no token is
found wherever a text goes on behind it; only an operator that is not whole may become whole.

Main statement: `compositional_tokens`.
-/

namespace RecordGate.Expression

open RecordGate.Text

/-! ### Offsets -/

theorem Located.map_shift_shift (j k : Nat) (ts : List Located) :
    (ts.map (shift j)).map (shift k) = ts.map (shift (k + j)) := by
  rw [List.map_map]
  apply List.map_congr_left
  intro t _
  simp only [Function.comp_apply, shift, Nat.add_assoc, Nat.add_comm j k]

theorem tokens_cons_of_isBlank {w : Char} {cs : List Char} {ts : List Located} (hw : isBlank w = true)
    (h : tokens cs = .ok ts) : tokens (w :: cs) = .ok (ts.map (Located.shift w.utf8Size)) := by
  rw [tokens, scan, if_pos hw]
  exact scan_shift h _

/-- The tokens of a text stand one behind the other. -/
theorem Cut.pairwise_offset {cs : List Char} {start skip : Nat} {ts : List Located} (h : Cut start skip cs ts) :
    ts.Pairwise fun t u => t.offset < u.offset := by
  induction h with
  | done => exact List.Pairwise.nil
  | skip _ ih => exact ih
  | blank _ _ ih => exact ih
  | @token start c rest token taken ts _ _ hrest ih =>
    refine List.pairwise_cons.2 ⟨?_, ih⟩
    intro t ht
    obtain ⟨d, after, n, ⟨before, -, hoffset⟩, -, -⟩ := hrest.standsAt ht
    have hpos := c.utf8Size_pos
    change start < t.offset
    omega

/-! ### Characters that start no token -/

/-- The characters of which two, one behind the other, write an operator that one of them does not write. -/
def halves : List Char := ['=', '&', '|']

theorem Stuck.lt_length {e : SyntaxError} {cs : List Char} {offset skip : Nat} (h : Stuck e offset skip cs) :
    skip < cs.length := by
  induction h with
  | misspelled => exact Nat.succ_pos _
  | skip _ ih => exact Nat.succ_lt_succ ih
  | blank => exact Nat.succ_pos _
  | token => exact Nat.succ_pos _

section UnexpectedChar

variable {c d : Char} {offset place : Nat} {rest more : List Char}

/-- A character that is not expected is not expected before more text either, unless it is half of an operator and the
other half may follow. -/
theorem Misspelled.append (h : Misspelled offset c rest (.unexpectedChar d place))
    (hmore : d ∉ halves ∨ Separate more) : Misspelled offset c (rest ++ more) (.unexpectedChar d place) := by
  cases h with
  | sign h =>
    have hseparate : Separate more := hmore.resolve_left fun hd => hd (by decide)
    exact .sign ((equalsSigns_append (.inr hseparate)).trans h)
  | operator hc h =>
    have hhalf : c ∈ halves := by rcases hc with rfl | rfl <;> decide
    have hseparate : Separate more := hmore.resolve_left fun hd => hd hhalf
    refine .operator hc ?_
    cases rest with
    | nil =>
      intro hhead
      have hsep := hseparate c hhead
      rcases hc with rfl | rfl <;> exact absurd hsep (by decide)
    | cons e rest => exact h
  | other _ hmark hdigit hpath => exact .other _ hmark hdigit hpath

/-- The tokens in front of such a character end before it, so that they are the same whatever follows. -/
theorem Stuck.scan_append {cs : List Char} {skip : Nat} (h : Stuck (.unexpectedChar d place) offset skip cs)
    (hmore : d ∉ halves ∨ Separate more) : scan offset skip (cs ++ more) = .error (.unexpectedChar d place) := by
  induction h with
  | misspelled hc h =>
    rw [List.cons_append, scan, hc, (h.append hmore).lexeme]
    rfl
  | skip _ ih => exact ih
  | blank hc _ ih =>
    rw [List.cons_append, scan, if_pos hc]
    exact ih
  | token hc ht h ih =>
    rw [List.cons_append, scan_cons_of_lexeme hc (ht.append (.inl h.lt_length)), ih]
    rfl

end UnexpectedChar

/-! ### Whole texts -/

/-- How a cutting of texts into tokens goes together with putting texts together: the tokens of two texts with a blank
between them, or with nothing or a parenthesis at the start of the second, are those of the first and then those of the
second, moved; tokens come in the order of their places, each at a character that is not blank; a character that is
refused stays refused before a blank, and before anything if it is not half of an operator. -/
structure Compositional (cut : List Char → Except SyntaxError (List Located)) : Prop where
  blank_between : ∀ s₁ s₂ ts us w, cut s₁ = .ok ts → cut s₂ = .ok us → isBlank w = true →
    cut (s₁ ++ w :: s₂) = .ok (ts ++ us.map (Located.shift (byteLength (s₁ ++ [w]))))
  parenthesis_next : ∀ s₁ s₂ ts us, cut s₁ = .ok ts → cut s₂ = .ok us →
    (s₂ = [] ∨ s₂.head? = some '(' ∨ s₂.head? = some ')') →
      cut (s₁ ++ s₂) = .ok (ts ++ us.map (Located.shift (byteLength s₁)))
  increasing : ∀ s ts, cut s = .ok ts → ts.Pairwise fun t u => t.offset < u.offset
  standing : ∀ s ts, cut s = .ok ts → ∀ t ∈ ts,
    ∃ before c after, s = before ++ c :: after ∧ byteLength before = t.offset ∧ isBlank c = false
  refused : ∀ s c offset, cut s = .error (.unexpectedChar c offset) →
    (∀ w more, isBlank w = true → cut (s ++ w :: more) = .error (.unexpectedChar c offset)) ∧
      (c ∉ halves → ∀ more, cut (s ++ more) = .error (.unexpectedChar c offset))

theorem separate_of_parenthesis {more : List Char}
    (h : more = [] ∨ more.head? = some '(' ∨ more.head? = some ')') : Separate more := by
  intro c hc
  rcases h with rfl | hopening | hclosing
  · cases hc
  · obtain rfl : '(' = c := Option.some.inj (hopening.symm.trans hc)
    decide
  · obtain rfl : ')' = c := Option.some.inj (hclosing.symm.trans hc)
    decide

theorem separate_blank {w : Char} (hw : isBlank w = true) (more : List Char) : Separate (w :: more) :=
  separate_cons (by simp [isSeparator, hw]) more

/-- **Cutting into tokens is compositional.** -/
theorem compositional_tokens : Compositional tokens where
  blank_between := by
    intro s₁ s₂ ts us w h₁ h₂ hw
    rw [tokens_append h₁ (tokens_cons_of_isBlank hw h₂) (separate_blank hw s₂), Located.map_shift_shift,
      byteLength_append, byteLength_cons, byteLength_nil, Nat.add_zero]
  parenthesis_next := by
    intro s₁ s₂ ts us h₁ h₂ hnext
    exact tokens_append h₁ h₂ (separate_of_parenthesis hnext)
  increasing := fun s ts h => (Cut.of_scan h).pairwise_offset
  standing := by
    intro s ts h t ht
    obtain ⟨c, after, n, ⟨before, hs, hoffset⟩, hblank, -⟩ := standsAt_of_mem_scan h ht
    rw [Nat.zero_add] at hoffset
    exact ⟨before, c, after, hs, hoffset.symm, hblank⟩
  refused := by
    intro s c offset h
    constructor
    · intro w more hw
      exact (Stuck.of_scan h).scan_append (.inr (separate_blank hw more))
    · intro hc more
      exact (Stuck.of_scan h).scan_append (.inl hc)

end RecordGate.Expression
