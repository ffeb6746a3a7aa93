import RecordGate.Expression.Basic

/-!
# Single tokens

`Lexeme c rest t n` lists the tokens of the rule language with the characters that write them: the token
`t` starts with the character `c` and takes the first `n` characters of `rest`.  The lexer reads exactly
these (`lexeme_eq_ok_iff`), wherever the token stands; `Misspelled` lists what it reports where there is none.
-/

namespace RecordGate.Expression

open RecordGate.Text

/-- A token that starts with `c` and takes `n` of the characters after it. -/
inductive Lexeme : Char → List Char → Token → Nat → Prop where
  | opening (rest : List Char) : Lexeme '(' rest .opening 0
  | closing (rest : List Char) : Lexeme ')' rest .closing 0
  | equal {rest : List Char} (h : equalsSigns rest ≠ 0) : Lexeme '=' rest .equal (equalsSigns rest)
  | not {rest : List Char} (h : equalsSigns rest = 0) : Lexeme '!' rest .not 0
  | unequal {rest : List Char} (h : equalsSigns rest ≠ 0) :
      Lexeme '!' rest .unequal (equalsSigns rest)
  | less {rest : List Char} (h : equalsSigns rest = 0) : Lexeme '<' rest .less 0
  | lessEqual {rest : List Char} (h : equalsSigns rest ≠ 0) : Lexeme '<' rest .lessEqual 1
  | greater {rest : List Char} (h : equalsSigns rest = 0) : Lexeme '>' rest .greater 0
  | greaterEqual {rest : List Char} (h : equalsSigns rest ≠ 0) : Lexeme '>' rest .greaterEqual 1
  | and (rest : List Char) : Lexeme '&' ('&' :: rest) .and 1
  | or (rest : List Char) : Lexeme '|' ('|' :: rest) .or 1
  | text {quote : Char} {rest said : List Char} {n : Nat} (hq : quote = '\'' ∨ quote = '"')
      (h : quoted? quote rest = some (said, n)) : Lexeme quote rest (.text (String.ofList said)) n
  | number {c : Char} {rest : List Char} {x : Binary64} (hc : isDigit c = true ∨ c = '-')
      (h : literal? (c :: rest.takeWhile isNumberChar) = some x) :
      Lexeme c rest (.number x) (rest.takeWhile isNumberChar).length
  | word {c : Char} {rest : List Char} {t : Token} (hc : isPathStart c = true)
      (h : word? (c :: rest.takeWhile isPathChar) = some t) :
      Lexeme c rest t (rest.takeWhile isPathChar).length

/-- The characters that start a token that is neither a number nor a word. -/
def marks : List Char := ['(', ')', '=', '!', '<', '>', '&', '|', '\'', '"']

/-- What is wrong where `c` and what follows write no token: an operator is not whole, a text is not closed, the number
or the word that stands there is none, or `c` starts nothing. -/
inductive Misspelled (offset : Nat) : Char → List Char → SyntaxError → Prop where
  | sign {rest : List Char} (h : equalsSigns rest = 0) : Misspelled offset '=' rest (.unexpectedChar '=' offset)
  | operator {c : Char} {rest : List Char} (hc : c = '&' ∨ c = '|') (h : rest.head? ≠ some c) :
      Misspelled offset c rest (.unexpectedChar c offset)
  | text {quote : Char} {rest : List Char} (hq : quote = '\'' ∨ quote = '"') (h : quoted? quote rest = none) :
      Misspelled offset quote rest (.unterminatedText offset)
  | number {c : Char} {rest : List Char} (hc : isDigit c = true ∨ c = '-')
      (h : literal? (c :: rest.takeWhile isNumberChar) = none) :
      Misspelled offset c rest (.invalidNumber (String.ofList (c :: rest.takeWhile isNumberChar)) offset)
  | word {c : Char} {rest : List Char} (hc : isPathStart c = true) (h : word? (c :: rest.takeWhile isPathChar) = none) :
      Misspelled offset c rest (.invalidPath (String.ofList (c :: rest.takeWhile isPathChar)) offset)
  | other {c : Char} (rest : List Char) (hmark : c ∉ marks) (hdigit : ¬ (isDigit c = true ∨ c = '-'))
      (hpath : ¬ isPathStart c = true) : Misspelled offset c rest (.unexpectedChar c offset)

/-- The outcome at a character: the token that is written there, or what is wrong. -/
def Spelled (offset : Nat) (c : Char) (rest : List Char) : Except SyntaxError (Token × Nat) → Prop
  | .ok (t, n) => Lexeme c rest t n
  | .error e => Misspelled offset c rest e

theorem spelled_lexeme (offset : Nat) (c : Char) (rest : List Char) :
    Spelled offset c rest (lexeme offset c rest) := by
  unfold lexeme
  split
  next hc => exact hc ▸ .opening rest
  split
  next hc => exact hc ▸ .closing rest
  split
  next hc =>
    subst hc
    split
    next he => exact .sign he
    next he => exact .equal he
  split
  next hc =>
    subst hc
    split
    next he => exact .not he
    next he => exact .unequal he
  split
  next hc =>
    subst hc
    split
    next he => exact .less he
    next he => exact .lessEqual he
  split
  next hc =>
    subst hc
    split
    next he => exact .greater he
    next he => exact .greaterEqual he
  split
  next hc =>
    have hoperator : c = '&' ∨ c = '|' := by simpa using hc
    split
    next hhead =>
      obtain ⟨rest, rfl⟩ : ∃ r, rest = c :: r := by
        cases rest with
        | nil => cases hhead
        | cons d r => exact ⟨r, by simpa using hhead⟩
      rcases hoperator with rfl | rfl
      · exact .and rest
      · exact .or rest
    next hhead => exact .operator hoperator hhead
  split
  next hc =>
    have hquote : c = '\'' ∨ c = '"' := by simpa using hc
    split
    next said n hq => exact .text hquote hq
    next hq => exact .text hquote hq
  split
  next hc =>
    have hnumber : isDigit c = true ∨ c = '-' := by simpa using hc
    dsimp only
    split
    next x hx => exact .number hnumber hx
    next hx => exact .number hnumber hx
  split
  next hc =>
    dsimp only
    split
    next token ht => exact .word hc ht
    next ht => exact .word hc ht
  next hpath =>
    refine .other rest ?_ (by simp_all) hpath
    simp_all [marks]

variable {offset : Nat} {c : Char} {rest : List Char} {t : Token} {n : Nat}

theorem Lexeme.of_lexeme (h : lexeme offset c rest = .ok (t, n)) : Lexeme c rest t n := by
  have hspelled := spelled_lexeme offset c rest
  rw [h] at hspelled
  exact hspelled

theorem Misspelled.of_lexeme {e : SyntaxError} (h : lexeme offset c rest = .error e) :
    Misspelled offset c rest e := by
  have hspelled := spelled_lexeme offset c rest
  rw [h] at hspelled
  exact hspelled

theorem not_isDigit_of_isPathStart (h : isPathStart c = true) : isDigit c = false ∧ c ≠ '-' := by
  constructor
  · rw [← Bool.not_eq_true, isDigit_iff]
    simp only [isPathStart, Bool.or_eq_true, isLetter_iff, decide_eq_true_eq] at h
    rcases h with (h | rfl) | rfl
    · omega
    · decide
    · decide
  · rintro rfl
    revert h
    decide

theorem not_mem_marks_of_isPathStart (h : isPathStart c = true) : c ∉ marks := by
  intro hm
  have hall : marks.all (fun d => !isPathStart d) = true := by decide
  have := List.all_eq_true.1 hall c hm
  simp [h] at this

theorem not_mem_marks_of_isDigit (h : isDigit c = true ∨ c = '-') : c ∉ marks := by
  intro hm
  have hall : marks.all (fun d => !(isDigit d || d = '-')) = true := by decide
  have hno : isDigit c = false ∧ c ≠ '-' := by simpa using List.all_eq_true.1 hall c hm
  rcases h with hdigit | hminus
  · exact Bool.false_ne_true (hno.1.symm.trans hdigit)
  · exact hno.2 hminus

theorem lexeme_of_isDigit (hc : isDigit c = true ∨ c = '-') (offset : Nat) (rest : List Char) :
    lexeme offset c rest =
      match literal? (c :: rest.takeWhile isNumberChar) with
      | some x => .ok (.number x, (rest.takeWhile isNumberChar).length)
      | none => .error (.invalidNumber (String.ofList (c :: rest.takeWhile isNumberChar)) offset) := by
  have hmark := not_mem_marks_of_isDigit hc
  have hc' : (isDigit c || decide (c = '-')) = true := by simpa using hc
  simp only [marks, List.mem_cons, List.not_mem_nil, not_or] at hmark
  cases h : literal? (c :: rest.takeWhile isNumberChar) <;> simp [lexeme, hmark, hc', h]

theorem lexeme_of_isPathStart (hc : isPathStart c = true) (offset : Nat) (rest : List Char) :
    lexeme offset c rest =
      match word? (c :: rest.takeWhile isPathChar) with
      | some token => .ok (token, (rest.takeWhile isPathChar).length)
      | none => .error (.invalidPath (String.ofList (c :: rest.takeWhile isPathChar)) offset) := by
  have hmark := not_mem_marks_of_isPathStart hc
  have hdigit : (isDigit c || decide (c = '-')) = false := by
    simpa using not_isDigit_of_isPathStart hc
  simp only [marks, List.mem_cons, List.not_mem_nil, not_or] at hmark
  cases h : word? (c :: rest.takeWhile isPathChar) <;> simp [lexeme, hmark, hdigit, hc, h]

theorem Lexeme.lexeme (h : Lexeme c rest t n) (offset : Nat) :
    Expression.lexeme offset c rest = .ok (t, n) := by
  cases h with
  | opening => rfl
  | closing => rfl
  | equal h => simp [Expression.lexeme, h]
  | not h => simp [Expression.lexeme, h]
  | unequal h => simp [Expression.lexeme, h]
  | less h => simp [Expression.lexeme, h]
  | lessEqual h => simp [Expression.lexeme, h]
  | greater h => simp [Expression.lexeme, h]
  | greaterEqual h => simp [Expression.lexeme, h]
  | and => simp [Expression.lexeme]
  | or => simp [Expression.lexeme]
  | text hq h => rcases hq with rfl | rfl <;> simp [Expression.lexeme, h]
  | number hc h => rw [lexeme_of_isDigit hc, h]
  | word hc h => rw [lexeme_of_isPathStart hc, h]

theorem Misspelled.lexeme {e : SyntaxError} (h : Misspelled offset c rest e) :
    Expression.lexeme offset c rest = .error e := by
  cases h with
  | sign h => simp [Expression.lexeme, h]
  | operator hc h => rcases hc with rfl | rfl <;> simp [Expression.lexeme, h]
  | text hq h => rcases hq with rfl | rfl <;> simp [Expression.lexeme, h]
  | number hc h => rw [lexeme_of_isDigit hc, h]
  | word hc h => rw [lexeme_of_isPathStart hc, h]
  | other _ hmark hdigit hpath =>
    have hdigit' : (isDigit c || decide (c = '-')) = false := by simpa using hdigit
    simp only [marks, List.mem_cons, List.not_mem_nil, not_or] at hmark
    simp [Expression.lexeme, hmark, hdigit', hpath]

theorem lexeme_eq_ok_iff : lexeme offset c rest = .ok (t, n) ↔ Lexeme c rest t n :=
  ⟨Lexeme.of_lexeme, fun h => h.lexeme offset⟩

end RecordGate.Expression
