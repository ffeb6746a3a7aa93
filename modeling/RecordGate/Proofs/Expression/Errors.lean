import Mathlib.Algebra.Group.Nat.Even
import Mathlib.Data.List.DropRight
import RecordGate.Proofs.Expression.Places

/-!
# Where syntax errors stand

The offset of a syntax error is the byte at which a character of the rule starts, and the error is right about the
text from there on.  The errors of the lexer stand at the character that it could not start a token with, or at the
first character of what it took for one; the other errors with an offset stand at a token.  The readers of the
parser take tokens from the front of what they are given and blame no other.

A text that is not closed has no quote of its kind that is free of a backslash.  What frees a quote is said by the
place of the quote alone: the backslashes right before it are even in number.

* `Unescaped` and `isSome_quoted?_iff`: the reader of a quoted text, which drops what a backslash stands before, against
  the count of backslashes.
* `SyntaxError.Describes`: what each error says of the character it stands at and the text from there on.
* `Misspelled.describes`: errors of the lexer, by their kinds.
* `Faithful`: a reader of the parser returns a rest of what it was given, or blames a token of it.  This is kept by
  sequencing (`Faithful.bind`, `Faithful.map`), and each reader is an application of these.

Main statement: `parse_error_stands`.
-/

namespace RecordGate.Expression

open RecordGate.Text

/-! ### Unescaped quotes -/

/-- How many backslashes a text ends with. -/
def backslashes (cs : List Char) : Nat := (cs.rtakeWhile (· = '\\')).length

/-- A quote stands in a text, and the backslashes right before it go in pairs. -/
def Unescaped (quote : Char) (cs : List Char) : Prop :=
  ∃ before after, cs = before ++ quote :: after ∧ Even (backslashes before)

theorem backslashes_append (cs ds : List Char) :
    backslashes (cs ++ ds) =
      if backslashes ds = ds.length then backslashes cs + ds.length else backslashes ds := by
  simp only [backslashes, List.rtakeWhile, List.reverse_append, List.length_reverse, List.takeWhile_append]
  split
  · rw [List.length_append, List.length_reverse, Nat.add_comm]
  · rfl

theorem backslashes_cons {c : Char} (hc : c ≠ '\\') (cs : List Char) : backslashes (c :: cs) = backslashes cs := by
  have hsingle : backslashes [c] = 0 := by simp [backslashes, List.rtakeWhile, hc]
  have happend := backslashes_append [c] cs
  rw [List.singleton_append, hsingle] at happend
  split at happend
  next hall => rw [happend, Nat.zero_add, hall]
  next => exact happend

/-- A backslash and the character behind it leave the parity of the backslashes at the end. -/
theorem even_backslashes_escape (e : Char) (cs : List Char) :
    Even (backslashes ('\\' :: e :: cs)) ↔ Even (backslashes cs) := by
  have hpair : Even (backslashes ['\\', e]) := by
    by_cases he : e = '\\'
    · subst he
      exact ⟨1, rfl⟩
    · simp [backslashes, List.rtakeWhile, he]
  have happend := backslashes_append ['\\', e] cs
  rw [List.cons_append, List.singleton_append] at happend
  split at happend
  next hall => rw [happend, hall, Nat.even_add, iff_true_left hpair]
  next => rw [happend]

section Unescaped

variable {quote c : Char}

theorem unescaped_quote (quote : Char) (cs : List Char) : Unescaped quote (quote :: cs) :=
  ⟨[], cs, rfl, ⟨0, rfl⟩⟩

theorem unescaped_cons (hc : c ≠ quote) (hb : c ≠ '\\') (cs : List Char) :
    Unescaped quote (c :: cs) ↔ Unescaped quote cs := by
  constructor
  · rintro ⟨_ | ⟨d, before⟩, after, heq, heven⟩
    · exact absurd (List.cons.inj heq).1 hc
    · obtain ⟨rfl, rfl⟩ := List.cons.inj heq
      exact ⟨before, after, rfl, backslashes_cons hb before ▸ heven⟩
  · rintro ⟨before, after, rfl, heven⟩
    exact ⟨c :: before, after, rfl, (backslashes_cons hb before).symm ▸ heven⟩

theorem unescaped_escape (hq : '\\' ≠ quote) (e : Char) (cs : List Char) :
    Unescaped quote ('\\' :: e :: cs) ↔ Unescaped quote cs := by
  constructor
  · rintro ⟨_ | ⟨b, _ | ⟨d, before⟩⟩, after, heq, heven⟩
    · exact absurd (List.cons.inj heq).1 hq
    · -- the quote would be the escaped character, with one backslash before it
      obtain ⟨rfl, -⟩ := List.cons.inj heq
      exact absurd heven (by decide)
    · obtain ⟨rfl, hrest⟩ := List.cons.inj heq.symm
      obtain ⟨rfl, rfl⟩ := List.cons.inj hrest.symm
      exact ⟨before, after, rfl, (even_backslashes_escape e before).1 heven⟩
  · rintro ⟨before, after, rfl, heven⟩
    exact ⟨'\\' :: e :: before, after, rfl, (even_backslashes_escape e before).2 heven⟩

theorem not_unescaped_backslash (hq : '\\' ≠ quote) : ¬ Unescaped quote ['\\'] := by
  rintro ⟨_ | ⟨b, before⟩, after, heq, -⟩
  · exact hq (List.cons.inj heq).1
  · exact absurd (List.cons.inj heq).2 (by simp)

/-- A quoted text is closed exactly if an unescaped quote follows. -/
theorem isSome_quoted?_iff (hq : '\\' ≠ quote) (cs : List Char) :
    (quoted? quote cs).isSome = true ↔ Unescaped quote cs := by
  fun_induction quoted? quote cs with
  | case1 => simp [Unescaped]
  | case2 rest => simp [unescaped_quote]
  | case3 => simpa using not_unescaped_backslash hq
  | case4 e rest _ ih => rw [Option.isSome_map, ih, unescaped_escape hq]
  | case5 c rest hc hb ih => rw [Option.isSome_map, ih, unescaped_cons hc hb]

end Unescaped

/-! ### What an error says -/

/-- The byte that a syntax error names, if it names one. -/
def SyntaxError.offset? : SyntaxError → Option Nat
  | unexpectedChar _ offset => some offset
  | unterminatedText offset => some offset
  | invalidNumber _ offset => some offset
  | invalidPath _ offset => some offset
  | unexpectedToken _ offset => some offset
  | empty => none
  | tooLong _ => none
  | tooDeep => none
  | unexpectedEnd => none

/-- What a syntax error says of a rule in which `c` stands at its offset and `after` behind it: that `c` is the
character that is reported; that it is a quote and no other that is unescaped follows; that the number or the path that
is reported stands there; or that the token that the message describes is a token of the rule and is written there. -/
def SyntaxError.Describes (source : List Char) (c : Char) (after : List Char) : SyntaxError → Prop
  | unexpectedChar d _ => c = d
  | unterminatedText _ => (c = '\'' ∨ c = '"') ∧ ¬ Unescaped c after
  | invalidNumber literal _ => ∃ more rest, literal.toList = c :: more ∧ after = more ++ rest
  | invalidPath path _ => ∃ more rest, path.toList = c :: more ∧ after = more ++ rest
  | unexpectedToken found offset =>
    ∃ ts n, tokens source = .ok ts ∧ ⟨found, offset⟩ ∈ ts ∧ Lexeme c after found n
  | empty => True
  | tooLong _ => True
  | tooDeep => True
  | unexpectedEnd => True

/-! ### Errors of the lexer -/

theorem exists_append_takeWhile (p : Char → Bool) (c : Char) (rest : List Char) :
    ∃ more rest', (String.ofList (c :: rest.takeWhile p)).toList = c :: more ∧ rest = more ++ rest' :=
  ⟨rest.takeWhile p, rest.dropWhile p, String.toList_ofList, List.takeWhile_append_dropWhile.symm⟩

theorem Misspelled.describes {offset : Nat} {c : Char} {rest : List Char} {e : SyntaxError}
    (h : Misspelled offset c rest e) (source : List Char) :
    e.offset? = some offset ∧ e.Describes source c rest := by
  cases h with
  | sign => exact ⟨rfl, rfl⟩
  | operator => exact ⟨rfl, rfl⟩
  | text hquote hnone =>
    refine ⟨rfl, hquote, ?_⟩
    have hq : '\\' ≠ c := by rcases hquote with rfl | rfl <;> decide
    rw [← isSome_quoted?_iff hq, hnone]
    exact Bool.false_ne_true
  | number => exact ⟨rfl, exists_append_takeWhile _ c rest⟩
  | word => exact ⟨rfl, exists_append_takeWhile _ c rest⟩
  | other => exact ⟨rfl, rfl⟩

/-! ### Errors of the parser -/

/-- An error with an offset is about one of the tokens. -/
def SyntaxError.Blames (ts : List Located) (e : SyntaxError) : Prop :=
  e.offset? = none ∨ ∃ t ∈ ts, e = unexpected t

/-- What a reader can make of tokens: a tree, and the tokens behind those it has taken; or an error about them. -/
def Faithful (ts : List Located) : Except SyntaxError (Tree × List Located) → Prop
  | .ok (_, rest) => rest <:+ ts
  | .error e => e.Blames ts

/-- A reader that is faithful to all tokens. -/
def TreeReader.IsFaithful (reader : TreeReader) : Prop := ∀ ts, Faithful ts (reader ts)

theorem SyntaxError.Blames.mono {ts us : List Located} {e : SyntaxError} (h : e.Blames ts) (hsub : ts ⊆ us) :
    e.Blames us := by
  rcases h with hnone | ⟨t, ht, rfl⟩
  · exact .inl hnone
  · exact .inr ⟨t, hsub ht, rfl⟩

theorem Faithful.mono {ts us : List Located} {result : Except SyntaxError (Tree × List Located)}
    (h : Faithful ts result) (hsuffix : ts <:+ us) : Faithful us result := by
  cases result with
  | error e => exact SyntaxError.Blames.mono h hsuffix.subset
  | ok read => exact List.IsSuffix.trans h hsuffix

theorem Faithful.bind {ts : List Located} {result : Except SyntaxError (Tree × List Located)}
    {next : Tree → TreeReader} :
    Faithful ts result → (∀ e, (next e).IsFaithful) → Faithful ts (match result with
      | .error e => .error e
      | .ok (e, rest) => next e rest) := by
  intro h hnext
  cases result with
  | error e => exact h
  | ok read => exact (hnext read.1 read.2).mono h

theorem Faithful.map {ts : List Located} {result : Except SyntaxError (Tree × List Located)} {f : Tree → Tree} :
    Faithful ts result → Faithful ts (match result with
      | .error e => .error e
      | .ok (e, rest) => .ok (f e, rest)) := by
  intro h
  cases result with
  | error e => exact h
  | ok read => exact h

section Readers

variable {join? : Token → Option (Tree → Tree → Tree)} {operand : TreeReader}

theorem isFaithful_chainFrom (hop : operand.IsFaithful) (fuel : Nat) (left : Tree) :
    TreeReader.IsFaithful (chainFrom join? operand fuel left) := by
  induction fuel generalizing left with
  | zero => exact fun ts => List.suffix_refl ts
  | succ fuel ih =>
    intro ts
    cases ts with
    | nil => exact List.suffix_refl []
    | cons t ts =>
      rw [chainFrom]
      split
      next => exact List.suffix_refl _
      next join _ => exact ((hop ts).bind fun right => ih (join left right)).mono (List.suffix_cons t ts)

theorem isFaithful_chain (hop : operand.IsFaithful) : TreeReader.IsFaithful (chain join? operand) := fun ts =>
  (hop ts).bind fun left rest => isFaithful_chainFrom hop rest.length left rest

theorem isFaithful_relation (hop : operand.IsFaithful) : TreeReader.IsFaithful (relation operand) := by
  intro ts
  have h := hop ts
  rw [relation]
  split
  next e he => exact he ▸ h
  next left he => exact he ▸ h
  next left t rest he =>
    rw [he] at h
    split
    next => exact h
    next join _ =>
      exact (hop rest).map.mono ((List.suffix_cons t rest).trans h)

theorem isFaithful_disjunction (hop : operand.IsFaithful) : TreeReader.IsFaithful (disjunction operand) :=
  isFaithful_chain (isFaithful_chain (isFaithful_chain (isFaithful_relation hop)))

theorem isFaithful_closed (e : Tree) : TreeReader.IsFaithful (closed e) := by
  intro ts
  cases ts with
  | nil => exact .inl rfl
  | cons t rest =>
    rw [closed]
    split
    next => exact List.suffix_cons t rest
    next => exact .inr ⟨t, List.mem_cons_self, rfl⟩

theorem faithful_leaf (t : Located) (rest : List Located) :
    Faithful (t :: rest) (match leaf? t.token with
      | some e => .ok (e, rest)
      | none => .error (unexpected t)) := by
  cases leaf? t.token with
  | some e => exact List.suffix_cons t rest
  | none => exact .inr ⟨t, List.mem_cons_self, rfl⟩

theorem isFaithful_unary (depth : Nat) : TreeReader.IsFaithful (unary depth) := by
  induction depth with
  | zero =>
    intro ts
    cases ts with
    | nil => exact .inl rfl
    | cons t rest =>
      rw [unary]
      split
      next => exact .inl rfl
      next => exact .inl rfl
      next => exact faithful_leaf t rest
  | succ depth ih =>
    intro ts
    cases ts with
    | nil => exact .inl rfl
    | cons t rest =>
      have htail := List.suffix_cons t rest
      rw [unary]
      split
      next => exact (ih rest).map.mono htail
      next => exact ((isFaithful_disjunction ih rest).bind isFaithful_closed).mono htail
      next => exact faithful_leaf t rest

end Readers

/-- The parser blames a token of the rule, or names no offset. -/
theorem blames_of_treeOf {ts : List Located} {e : SyntaxError} (h : treeOf ts = .error e) : e.Blames ts := by
  have hread := isFaithful_disjunction (isFaithful_unary maxDepth) ts
  rw [treeOf] at h
  split at h
  next =>
    cases h
    exact .inl rfl
  split at h
  next e' he =>
    cases h
    rw [he] at hread
    exact hread
  next => cases h
  next e' t rest he =>
    cases h
    rw [he] at hread
    exact .inr ⟨t, List.IsSuffix.subset hread List.mem_cons_self, rfl⟩

/-! ### Errors of a rule -/

/-- **Syntax errors stand where they say.**  The offset that an error of a rule names is the byte at which one of its
characters starts, and what the error says of the text from there on is so. -/
theorem parse_error_stands {source : String} {e : SyntaxError} {offset : Nat} (h : parse source = .error e)
    (hoffset : e.offset? = some offset) :
    ∃ before c after, source.toList = before ++ c :: after ∧ byteLength before = offset ∧
      offset < byteLength source.toList ∧ e.Describes source.toList c after := by
  suffices hstands : ∃ c after, StandsAt 0 source.toList offset c after ∧ e.Describes source.toList c after by
    obtain ⟨c, after, hstands, hdescribes⟩ := hstands
    have hlt := hstands.lt
    obtain ⟨before, heq, hbefore⟩ := hstands
    rw [Nat.zero_add] at hlt hbefore
    exact ⟨before, c, after, heq, hbefore.symm, hlt, hdescribes⟩
  unfold parse at h
  dsimp only at h
  split at h
  next =>
    cases h
    cases hoffset
  split at h
  next e' hscan =>
    cases h
    obtain ⟨offset', c, after, hstands, hmisspelled⟩ := misspelled_of_scan_eq_error hscan
    obtain ⟨hnamed, hdescribes⟩ := hmisspelled.describes source.toList
    obtain rfl := Option.some.inj (hnamed.symm.trans hoffset)
    exact ⟨c, after, hstands, hdescribes⟩
  next ts hscan =>
    cases htree : treeOf ts with
    | ok tree =>
      rw [htree] at h
      cases h
    | error e' =>
      rw [htree] at h
      cases h
      rcases blames_of_treeOf htree with hnone | ⟨t, ht, rfl⟩
      · cases hnone.symm.trans hoffset
      · cases hoffset
        obtain ⟨c, after, n, hstands, -, hlexeme⟩ := standsAt_of_mem_scan hscan ht
        exact ⟨c, after, hstands, ts, n, hscan, ht, hlexeme⟩

/-- A text that is never closed, behind a character of two bytes. -/
theorem parse_error_stands_unterminated :
    let source := "'\u00fc' == 'it\\'s"
    parse source = .error (.unterminatedText 8) ∧
      ∃ before c after, source.toList = before ++ c :: after ∧ byteLength before = 8 ∧
        8 < byteLength source.toList ∧ (SyntaxError.unterminatedText 8).Describes source.toList c after := by
  intro source
  have hlength : ¬ maxLength < byteLength source.toList := by decide +kernel
  have htokens : tokens source.toList = .error (.unterminatedText 8) := by decide +kernel
  have hparse : parse source = .error (.unterminatedText 8) := by rw [parse, if_neg hlength, htokens]
  exact ⟨hparse, parse_error_stands hparse rfl⟩

end RecordGate.Expression
