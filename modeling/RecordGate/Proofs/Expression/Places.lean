import RecordGate.Proofs.Expression.Juxtaposition

/-!
# Where tokens stand

The lexer counts bytes while it takes characters, so that an offset is the size of what stands in front of a
character.  At the offset of a token stands a character that is not blank, with the rest of the token behind it; an
error of the lexer has an offset where a token should stand and none is written.  `Stuck` lists the steps up to there,
as `Cut` does for a text without an error.

Main statements: `standsAt_of_mem_scan`, `misspelled_of_scan_eq_error`.
-/

namespace RecordGate.Expression

open RecordGate.Text

/-! ### Places -/

/-- In a text that starts at byte `start`, the character at byte `offset` is `c`, and `after` follows it. -/
def StandsAt (start : Nat) (cs : List Char) (offset : Nat) (c : Char) (after : List Char) : Prop :=
  ∃ before, cs = before ++ c :: after ∧ offset = start + byteLength before

namespace StandsAt

variable {start offset : Nat} {cs after : List Char} {c d : Char}

theorem head (start : Nat) (c : Char) (after : List Char) : StandsAt start (c :: after) start c after :=
  ⟨[], rfl, rfl⟩

theorem cons (h : StandsAt (start + d.utf8Size) cs offset c after) : StandsAt start (d :: cs) offset c after := by
  obtain ⟨before, rfl, rfl⟩ := h
  exact ⟨d :: before, rfl, by rw [byteLength_cons, Nat.add_assoc]⟩

theorem mem (h : StandsAt start cs offset c after) : c ∈ cs := by
  obtain ⟨before, rfl, -⟩ := h
  exact List.mem_append_right _ List.mem_cons_self

theorem lt (h : StandsAt start cs offset c after) : offset < start + byteLength cs := by
  obtain ⟨before, rfl, rfl⟩ := h
  have hpos := c.utf8Size_pos
  rw [byteLength_append, byteLength_cons]
  omega

end StandsAt

/-! ### Tokens and what is misspelled -/

/-- An error in a text that is not blank at its start: what stands there is misspelled, or a token stands there and the
error is behind it. -/
theorem scan_cons_eq_error {offset : Nat} {c : Char} {rest : List Char} {e : SyntaxError} (hc : isBlank c = false)
    (h : scan offset 0 (c :: rest) = .error e) :
    Misspelled offset c rest e ∨
      ∃ t taken, Lexeme c rest t taken ∧ scan (offset + c.utf8Size) taken rest = .error e := by
  rw [scan, hc] at h
  cases hlexeme : lexeme offset c rest with
  | error e' =>
    simp only [hlexeme, Bool.false_eq_true, if_false] at h
    cases h
    exact .inl (.of_lexeme hlexeme)
  | ok read =>
    obtain ⟨t, taken⟩ := read
    cases hscan : scan (offset + c.utf8Size) taken rest with
    | error e' =>
      simp only [hlexeme, hscan, Except.map, Bool.false_eq_true, if_false] at h
      cases h
      exact .inr ⟨t, taken, .of_lexeme hlexeme, hscan⟩
    | ok ts => simp [hlexeme, hscan, Except.map] at h

/-- How the cutting of a text into tokens ends at an error: blanks and tokens are passed over up to what is
misspelled. -/
inductive Stuck (e : SyntaxError) : (offset skip : Nat) → List Char → Prop where
  | misspelled {offset : Nat} {c : Char} {rest : List Char} (hc : isBlank c = false)
      (h : Misspelled offset c rest e) : Stuck e offset 0 (c :: rest)
  | skip {offset skip : Nat} {c : Char} {rest : List Char} (h : Stuck e (offset + c.utf8Size) skip rest) :
      Stuck e offset (skip + 1) (c :: rest)
  | blank {offset : Nat} {c : Char} {rest : List Char} (hc : isBlank c = true)
      (h : Stuck e (offset + c.utf8Size) 0 rest) : Stuck e offset 0 (c :: rest)
  | token {offset : Nat} {c : Char} {rest : List Char} {t : Token} {taken : Nat} (hc : isBlank c = false)
      (ht : Lexeme c rest t taken) (h : Stuck e (offset + c.utf8Size) taken rest) : Stuck e offset 0 (c :: rest)

theorem Stuck.of_scan {cs : List Char} {offset skip : Nat} {e : SyntaxError} (h : scan offset skip cs = .error e) :
    Stuck e offset skip cs := by
  induction cs generalizing offset skip with
  | nil => cases skip <;> cases h
  | cons c rest ih =>
    cases skip with
    | succ skip => exact .skip (ih h)
    | zero =>
      by_cases hc : isBlank c = true
      · rw [scan, if_pos hc] at h
        exact .blank hc (ih h)
      · rw [Bool.not_eq_true] at hc
        rcases scan_cons_eq_error hc h with hmisspelled | ⟨t, taken, ht, hscan⟩
        · exact .misspelled hc hmisspelled
        · exact .token hc ht (ih hscan)

/-- An error of the lexer is about what stands at a character where a token should start. -/
theorem misspelled_of_scan_eq_error {cs : List Char} {start skip : Nat} {e : SyntaxError}
    (h : scan start skip cs = .error e) :
    ∃ offset c after, StandsAt start cs offset c after ∧ Misspelled offset c after e := by
  replace h := Stuck.of_scan h
  induction h with
  | @misspelled start c rest _ h => exact ⟨start, c, rest, .head start c rest, h⟩
  | skip _ ih | blank _ _ ih | token _ _ _ ih =>
    obtain ⟨offset, d, after, hstands, hmisspelled⟩ := ih
    exact ⟨offset, d, after, hstands.cons, hmisspelled⟩

theorem Cut.standsAt {cs : List Char} {start skip : Nat} {ts : List Located} (h : Cut start skip cs ts) {t : Located}
    (ht : t ∈ ts) :
    ∃ c after n, StandsAt start cs t.offset c after ∧ isBlank c = false ∧ Lexeme c after t.token n := by
  induction h with
  | done => cases ht
  | skip _ ih | blank _ _ ih =>
    obtain ⟨d, after, n, hstands, hblank, hlexeme⟩ := ih ht
    exact ⟨d, after, n, hstands.cons, hblank, hlexeme⟩
  | @token start c rest _ taken _ hblank hlexeme _ ih =>
    rcases List.mem_cons.1 ht with rfl | ht
    · exact ⟨c, rest, taken, .head start c rest, hblank, hlexeme⟩
    · obtain ⟨d, after, n, hstands, hd, hlexeme'⟩ := ih ht
      exact ⟨d, after, n, hstands.cons, hd, hlexeme'⟩

theorem standsAt_of_mem_scan {cs : List Char} {start skip : Nat} {ts : List Located}
    (h : scan start skip cs = .ok ts) {t : Located} (ht : t ∈ ts) :
    ∃ c after n, StandsAt start cs t.offset c after ∧ isBlank c = false ∧ Lexeme c after t.token n :=
  (Cut.of_scan h).standsAt ht

end RecordGate.Expression
