import RecordGate.Proofs.Expression.Lexeme

/-!
# Texts side by side

Where a text is followed by a blank or a parenthesis, no token of the text takes anything of what follows:
the tokens of the two parts are those of the first, then those of the second, moved by the size of the
first.  `Cut` lists the steps by which a text is cut into tokens; what holds of whole texts is shown along it.

A token is `Settled` before more text if it ends earlier than its part does, or if what follows is separate from it;
then it is the same token with the text behind it (`Lexeme.append`).  Only the last token of a part needs the
separator.  An offset plays no role in how a text is cut, so that moving a text moves the offsets and nothing else
(`scan_shift`).

Main statement: `tokens_append`.
-/

namespace RecordGate.Expression

open RecordGate.Text

/-! ### Separators -/

/-- The characters that end every token before them. -/
def isSeparator (c : Char) : Bool := isBlank c || c = '(' || c = ')'

/-- A text that is empty or starts with a separator. -/
def Separate (more : List Char) : Prop := ∀ c ∈ more.head?, isSeparator c = true

theorem separate_cons {c : Char} (hc : isSeparator c = true) (more : List Char) :
    Separate (c :: more) := by
  intro d hd
  obtain rfl : c = d := by simpa using hd
  exact hc

theorem not_isPathChar_of_isBlank {c : Char} (h : isBlank c = true) : isPathChar c = false := by
  have hne : ∀ d : Char, isBlank d = false → c ≠ d := by
    rintro d hd rfl
    rw [h] at hd
    cases hd
  have hletter : isLetter c = false := by
    rw [← Bool.not_eq_true, isLetter_iff]
    simp only [isBlank, Bool.or_eq_true, Bool.and_eq_true, decide_eq_true_eq, beq_iff_eq] at h
    omega
  have hdigit : isDigit c = false := by
    rw [← Bool.not_eq_true, isDigit_iff]
    simp only [isBlank, Bool.or_eq_true, Bool.and_eq_true, decide_eq_true_eq, beq_iff_eq] at h
    omega
  simp [isPathChar, hletter, hdigit, hne _ (by decide : isBlank '_' = false),
    hne _ (by decide : isBlank '$' = false), hne _ (by decide : isBlank '.' = false),
    hne _ (by decide : isBlank '[' = false), hne _ (by decide : isBlank ']' = false)]

theorem not_isPathChar_of_isSeparator {c : Char} (h : isSeparator c = true) :
    isPathChar c = false := by
  simp only [isSeparator, Bool.or_eq_true, decide_eq_true_eq] at h
  rcases h with (h | rfl) | rfl
  · exact not_isPathChar_of_isBlank h
  · decide
  · decide

theorem isPathChar_of_isNumberChar {c : Char} (h : isNumberChar c = true) :
    isPathChar c = true := by
  simp only [isNumberChar, Bool.or_eq_true, decide_eq_true_eq] at h
  rcases h with h | rfl
  · simp [isPathChar, h]
  · decide

/-! ### Tokens before a separator -/

section Append

variable {c : Char} {rest more : List Char} {t : Token} {n : Nat}

/-- The first `n` characters of a text are not all of it, or a separator follows the text. -/
def Settled (n : Nat) (rest more : List Char) : Prop := n < rest.length ∨ Separate more

theorem takeWhile_append_of_settled {p : Char → Bool} (hp : ∀ c, p c = true → isPathChar c = true)
    (h : Settled (rest.takeWhile p).length rest more) : (rest ++ more).takeWhile p = rest.takeWhile p := by
  rw [List.takeWhile_append]
  split
  next hall =>
    have hseparate : Separate more := h.resolve_left (Nat.not_lt.2 (Nat.le_of_eq hall.symm))
    have hmore : more.takeWhile p = [] := by
      cases more with
      | nil => rfl
      | cons d more =>
        apply List.takeWhile_cons_of_neg
        intro hd
        simpa [hp d hd] using not_isPathChar_of_isSeparator (hseparate d rfl)
    rw [hmore, List.append_nil]
    exact ((List.takeWhile_prefix p).eq_of_length hall).symm
  next => rfl

theorem equalsSigns_append (h : Settled (equalsSigns rest) rest more) :
    equalsSigns (rest ++ more) = equalsSigns rest := by
  have hne : Separate more → more.head? ≠ some '=' := fun hm hd => absurd (hm '=' hd) (by decide)
  match rest with
  | [] =>
    have hmore := hne (h.resolve_left (by decide))
    change equalsSigns more = 0
    unfold equalsSigns
    split <;> simp_all
  | [c] =>
    by_cases hc : c = '='
    · subst hc
      have hmore := hne (h.resolve_left (by decide))
      cases more with
      | nil => rfl
      | cons d more =>
        have hd : d ≠ '=' := by simpa using hmore
        simp [equalsSigns, hd]
    · simp [equalsSigns, hc]
  | c :: d :: rest =>
    by_cases hc : c = '='
    · subst hc
      by_cases hd : d = '='
      · subst hd; rfl
      · simp [equalsSigns, hd]
    · simp [equalsSigns, hc]

theorem equalsSigns_append_ne_zero (h : equalsSigns rest ≠ 0) (more : List Char) :
    equalsSigns (rest ++ more) ≠ 0 := by
  cases rest with
  | nil => exact absurd rfl h
  | cons c rest =>
    by_cases hc : c = '='
    · subst hc
      rw [List.cons_append]
      unfold equalsSigns
      split <;> simp_all
    · exact absurd (by simp [equalsSigns, hc]) h

theorem equalsSigns_le (rest : List Char) : equalsSigns rest ≤ rest.length := by
  unfold equalsSigns
  split <;> simp

theorem quoted?_cons {quote : Char} (hc : c ≠ quote) (hb : c ≠ '\\') (rest : List Char) :
    quoted? quote (c :: rest) = (quoted? quote rest).map fun (said, n) => (c :: said, n + 1) := by
  cases rest <;> simp [quoted?, hc, hb]

theorem quoted?_escape {quote : Char} (hq : '\\' ≠ quote) (e : Char) (rest : List Char) :
    quoted? quote ('\\' :: e :: rest) =
      (quoted? quote rest).map fun (said, n) => (unescape e :: said, n + 2) := by
  simp [quoted?, hq]

theorem quoted?_quote (quote : Char) (rest : List Char) :
    quoted? quote (quote :: rest) = some ([], 1) := by
  cases rest <;> simp [quoted?]

theorem quoted?_append {quote : Char} {said : List Char} (h : quoted? quote rest = some (said, n))
    (more : List Char) : n ≤ rest.length ∧ quoted? quote (rest ++ more) = some (said, n) := by
  fun_induction quoted? quote rest generalizing said n with
  | case1 => cases h
  | case2 rest =>
    obtain ⟨rfl, rfl⟩ : [] = said ∧ 1 = n := by simpa using h
    exact ⟨by simp, quoted?_quote _ _⟩
  | case3 => cases h
  | case4 e rest hq ih =>
    obtain ⟨⟨said', n'⟩, hr, heq⟩ := Option.map_eq_some_iff.1 h
    cases heq
    obtain ⟨hle, happ⟩ := ih hr
    exact ⟨by simpa using hle, by simp [quoted?_escape hq, happ]⟩
  | case5 c rest hc hb ih =>
    obtain ⟨⟨said', n'⟩, hr, heq⟩ := Option.map_eq_some_iff.1 h
    cases heq
    obtain ⟨hle, happ⟩ := ih hr
    exact ⟨by simpa using hle, by simp [quoted?_cons hc hb, happ]⟩

theorem Lexeme.length_le (h : Lexeme c rest t n) : n ≤ rest.length := by
  cases h with
  | opening | closing | not | less | greater => exact Nat.zero_le _
  | equal | unequal => exact equalsSigns_le rest
  | lessEqual h | greaterEqual h =>
    exact Nat.le_trans (Nat.one_le_iff_ne_zero.2 h) (equalsSigns_le rest)
  | and | or => simp
  | text hq h => exact (quoted?_append h []).1
  | number | word => exact (List.takeWhile_prefix _).length_le

/-- A token that ends before the end of a text, or at its end before a separator, ends there whatever follows. -/
theorem Lexeme.append (h : Lexeme c rest t n) (hn : Settled n rest more) :
    Lexeme c (rest ++ more) t n := by
  cases h with
  | opening => exact .opening _
  | closing => exact .closing _
  | equal h =>
    have heq := equalsSigns_append hn
    exact heq ▸ .equal (heq.symm ▸ h)
  | not h => exact .not ((equalsSigns_append (h.symm ▸ hn)).trans h)
  | unequal h =>
    have heq := equalsSigns_append hn
    exact heq ▸ .unequal (heq.symm ▸ h)
  | less h => exact .less ((equalsSigns_append (h.symm ▸ hn)).trans h)
  | lessEqual h => exact .lessEqual (equalsSigns_append_ne_zero h more)
  | greater h => exact .greater ((equalsSigns_append (h.symm ▸ hn)).trans h)
  | greaterEqual h => exact .greaterEqual (equalsSigns_append_ne_zero h more)
  | and => exact .and _
  | or => exact .or _
  | text hq h => exact .text hq (quoted?_append h more).2
  | number hc h =>
    have hnumber := takeWhile_append_of_settled (fun _ => isPathChar_of_isNumberChar) hn
    exact hnumber ▸ .number hc (hnumber.symm ▸ h)
  | word hc h =>
    have hpath := takeWhile_append_of_settled (fun _ h => h) hn
    exact hpath ▸ .word hc (hpath.symm ▸ h)

end Append

/-! ### Whole texts -/

/-- The same token further on. -/
def Located.shift (k : Nat) (t : Located) : Located := ⟨t.token, t.offset + k⟩

@[simp] theorem Located.shift_token (k : Nat) (t : Located) : (t.shift k).token = t.token := rfl

theorem scan_cons_of_lexeme {c : Char} {rest : List Char} {t : Token} {taken : Nat}
    (hc : isBlank c = false) (h : Lexeme c rest t taken) (offset : Nat) :
    scan offset 0 (c :: rest) =
      (scan (offset + c.utf8Size) taken rest).map (⟨t, offset⟩ :: ·) := by
  rw [scan, hc, h.lexeme offset]
  rfl

theorem scan_cons_eq_ok {offset : Nat} {c : Char} {rest : List Char} {ts : List Located}
    (hc : isBlank c = false) (h : scan offset 0 (c :: rest) = .ok ts) :
    ∃ t taken ts', Lexeme c rest t taken ∧ scan (offset + c.utf8Size) taken rest = .ok ts' ∧
      ts = ⟨t, offset⟩ :: ts' := by
  rw [scan, hc] at h
  cases hl : lexeme offset c rest with
  | error e => simp [hl] at h
  | ok read =>
    obtain ⟨t, taken⟩ := read
    simp only [hl] at h
    cases hs : scan (offset + c.utf8Size) taken rest with
    | error e => simp [hs, Except.map] at h
    | ok ts' =>
      simp only [hs, Except.map, Except.ok.injEq, Bool.false_eq_true, if_false] at h
      exact ⟨t, taken, ts', .of_lexeme hl, hs, h.symm⟩

/-- How a text that starts at byte `offset` is cut into tokens behind its first `skip` characters, which are taken:
blanks are passed over, and a token takes the characters that write it. -/
inductive Cut : (offset skip : Nat) → List Char → List Located → Prop where
  | done (offset skip : Nat) : Cut offset skip [] []
  | skip {offset skip : Nat} {c : Char} {rest : List Char} {ts : List Located}
      (h : Cut (offset + c.utf8Size) skip rest ts) : Cut offset (skip + 1) (c :: rest) ts
  | blank {offset : Nat} {c : Char} {rest : List Char} {ts : List Located} (hc : isBlank c = true)
      (h : Cut (offset + c.utf8Size) 0 rest ts) : Cut offset 0 (c :: rest) ts
  | token {offset : Nat} {c : Char} {rest : List Char} {t : Token} {taken : Nat} {ts : List Located}
      (hc : isBlank c = false) (ht : Lexeme c rest t taken) (h : Cut (offset + c.utf8Size) taken rest ts) :
      Cut offset 0 (c :: rest) (⟨t, offset⟩ :: ts)

theorem Cut.of_scan {cs : List Char} {offset skip : Nat} {ts : List Located} (h : scan offset skip cs = .ok ts) :
    Cut offset skip cs ts := by
  induction cs generalizing offset skip ts with
  | nil =>
    cases skip <;> cases h <;> exact .done _ _
  | cons c rest ih =>
    cases skip with
    | succ skip => exact .skip (ih h)
    | zero =>
      by_cases hc : isBlank c = true
      · rw [scan, if_pos hc] at h
        exact .blank hc (ih h)
      · rw [Bool.not_eq_true] at hc
        obtain ⟨t, taken, ts', ht, hs, rfl⟩ := scan_cons_eq_ok hc h
        exact .token hc ht (ih hs)

theorem scan_shift {cs : List Char} {offset skip : Nat} {ts : List Located}
    (h : scan offset skip cs = .ok ts) (k : Nat) :
    scan (offset + k) skip cs = .ok (ts.map (Located.shift k)) := by
  replace h := Cut.of_scan h
  induction h with
  | done offset skip => cases skip <;> rfl
  | skip _ ih =>
    rw [scan, Nat.add_right_comm]
    exact ih
  | blank hc _ ih =>
    rw [scan, if_pos hc, Nat.add_right_comm]
    exact ih
  | token hc ht _ ih =>
    rw [scan_cons_of_lexeme hc ht, Nat.add_right_comm, ih]
    rfl

theorem scan_append {cs more : List Char} {offset skip : Nat} {ts : List Located}
    (hskip : skip ≤ cs.length) (h : scan offset skip cs = .ok ts) (hm : Separate more) :
    scan offset skip (cs ++ more) = (scan (offset + byteLength cs) 0 more).map (ts ++ ·) := by
  replace h := Cut.of_scan h
  induction h with
  | done offset skip =>
    obtain rfl : skip = 0 := Nat.le_zero.1 hskip
    cases hs : scan offset 0 more <;> simp [hs, Except.map]
  | skip _ ih =>
    rw [List.cons_append, scan, byteLength_cons, ← Nat.add_assoc]
    exact ih (Nat.le_of_succ_le_succ hskip)
  | blank hc _ ih =>
    rw [List.cons_append, scan, if_pos hc, byteLength_cons, ← Nat.add_assoc]
    exact ih (Nat.zero_le _)
  | @token offset c rest t taken ts hc ht _ ih =>
    rw [List.cons_append, scan_cons_of_lexeme hc (ht.append (.inr hm)), ih ht.length_le, byteLength_cons,
      ← Nat.add_assoc]
    cases scan (offset + c.utf8Size + byteLength rest) 0 more <;> rfl

/-- **Tokens of texts side by side**: those of the first text, then those of the second, moved by the
size of the first. -/
theorem tokens_append {cs more : List Char} {ts us : List Located} (h : tokens cs = .ok ts)
    (hmore : tokens more = .ok us) (hm : Separate more) :
    tokens (cs ++ more) = .ok (ts ++ us.map (Located.shift (byteLength cs))) := by
  have hscan := scan_append (Nat.zero_le _) h hm
  rw [scan_shift hmore (byteLength cs)] at hscan
  exact hscan

end RecordGate.Expression
