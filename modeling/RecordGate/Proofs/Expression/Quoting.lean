import RecordGate.Proofs.Expression.Comparison
import RecordGate.Proofs.Expression.Paths
import RecordGate.Proofs.Expression.Places
import RecordGate.Proofs.Expression.Writing
import RecordGate.Proofs.Path.Characters

/-!
# Quoting texts

Every text can be written into a rule, between quotes of either kind and with a backslash before each backslash and
before each quote of that kind.  The backslashes go in pairs with what they stand before, so that the first quote that
is free of one is the last character of the literal.  No content of the text ends the literal early, and what the
literal says is the text again: a backslash changes no character but `n` and `t`, and it never stands before these.

* `quoted?_escape_append`: behind an opening quote the reader takes what was escaped, to its end, with any text
  following.  This is the induction along the text; the rest of the module applies it.
* `tokens_literal`: so the literal is one token, and within the greatest length of a rule it is parsed and evaluated.
* A path that is compared with the literal is a text of its own, of which it is only known that it reads as a path.
  Such a text is cut into one token, since no character of a path belongs to any mark (`exists_leaf_of_parse`).

Main statement: `literal_says_text`.
-/

namespace RecordGate.Expression

open RecordGate.Text

/-! ### Literals -/

/-- The two characters between which a text can stand in a rule. -/
inductive Quote where
  | single
  | double
  deriving DecidableEq

namespace Quote

def char : Quote → Char
  | single => '\''
  | double => '"'

/-- The characters of a text as they stand between quotes. -/
def escape (q : Quote) : List Char → List Char
  | [] => []
  | c :: cs => if c = '\\' ∨ c = q.char then '\\' :: c :: q.escape cs else c :: q.escape cs

/-- The literal of a text. -/
def literal (q : Quote) (s : String) : String := String.ofList (q.char :: (q.escape s.toList ++ [q.char]))

theorem char_cases (q : Quote) : q.char = '\'' ∨ q.char = '"' := by
  cases q with
  | single => exact .inl rfl
  | double => exact .inr rfl

theorem backslash_ne_char (q : Quote) : '\\' ≠ q.char := by cases q <;> decide

theorem isBlank_char (q : Quote) : isBlank q.char = false := by cases q <;> decide

theorem unescape_of_escaped {q : Quote} {c : Char} (h : c = '\\' ∨ c = q.char) : unescape c = c := by
  rcases h with rfl | rfl
  · decide
  · cases q <;> decide

/-- **An escaped text is read back up to the quote behind it**, whatever follows. -/
theorem quoted?_escape_append (q : Quote) (cs more : List Char) :
    quoted? q.char (q.escape cs ++ q.char :: more) = some (cs, (q.escape cs).length + 1) := by
  induction cs with
  | nil => exact quoted?_quote _ _
  | cons c cs ih =>
    by_cases hc : c = '\\' ∨ c = q.char
    · simp only [escape, if_pos hc, List.cons_append, quoted?_escape q.backslash_ne_char, ih, Option.map_some,
        unescape_of_escaped hc, List.length_cons]
    · have hother := not_or.1 hc
      simp only [escape, if_neg hc, List.cons_append, quoted?_cons hother.2 hother.1, ih, Option.map_some,
        List.length_cons]

end Quote

theorem scan_length (offset : Nat) (cs : List Char) : scan offset cs.length cs = .ok [] := by
  induction cs generalizing offset with
  | nil => rfl
  | cons c cs ih => exact ih _

theorem tokens_literal (q : Quote) (s : String) : tokens (q.literal s).toList = .ok [⟨.text s, 0⟩] := by
  have hlexeme : Lexeme q.char (q.escape s.toList ++ [q.char]) (.text s) (q.escape s.toList ++ [q.char]).length := by
    have htext := Lexeme.text q.char_cases (q.quoted?_escape_append s.toList [])
    rw [String.ofList_toList] at htext
    rwa [List.length_append]
  rw [Quote.literal, String.toList_ofList, tokens, scan_cons_of_lexeme q.isBlank_char hlexeme, scan_length]
  rfl

theorem writes_literal (q : Quote) (s : String) : Writes (q.literal s).toList [.text s] :=
  ⟨_, tokens_literal q s, rfl⟩

/-! ### Texts of paths -/

theorem exists_leaf_of_word? {cs : List Char} {t : Token} (h : word? cs = some t) : ∃ l : Leaf, l.token = t := by
  unfold word? at h
  split at h
  next => exact ⟨.yes, Option.some.inj h⟩
  split at h
  next => exact ⟨.no, Option.some.inj h⟩
  split at h
  next => exact ⟨.null, Option.some.inj h⟩
  next =>
    obtain ⟨p, -, hp⟩ := Option.map_eq_some_iff.1 h
    exact ⟨.path p, hp⟩

theorem Path.not_mem_marks_of_isPathCharacter {c : Char} (h : Path.isPathCharacter c = true) : c ∉ marks := by
  intro hm
  have hall : marks.all (fun d => !Path.isPathCharacter d) = true := by decide
  have := List.all_eq_true.1 hall c hm
  simp [h] at this

theorem Lexeme.exists_leaf {c : Char} {rest : List Char} {t : Token} {n : Nat} (h : Lexeme c rest t n)
    (hc : Path.isPathCharacter c = true) : ∃ l : Leaf, l.token = t := by
  have hmark := Path.not_mem_marks_of_isPathCharacter hc
  cases h with
  | number => exact ⟨.number _, rfl⟩
  | word _ hword => exact exists_leaf_of_word? hword
  | text hq => rcases hq with rfl | rfl <;> exact absurd (by decide) hmark
  | _ => exact absurd (by decide) hmark

theorem exists_leaf_of_tokens {cs : List Char} (hcs : ∀ c ∈ cs, Path.isPathCharacter c = true ∨ isBlank c = true)
    {ts : List Located} (h : tokens cs = .ok ts) : ∀ t ∈ ts, ∃ l : Leaf, l.token = t.token := by
  intro t ht
  obtain ⟨c, after, n, hstands, hblank, hlexeme⟩ := standsAt_of_mem_scan h ht
  have hpath := (hcs c hstands.mem).resolve_right (by simp [hblank])
  exact hlexeme.exists_leaf hpath

/-- A phrase of literals and paths alone is one of them: all else has an operator or a parenthesis. -/
theorem Derivation.exists_leaf {p : Phrase} (d : Derivation p) (h : ∀ t ∈ d.tokens, ∃ l : Leaf, l.token = t) :
    ∃ l : Leaf, d.tokens = [l.token] ∧ d.tree = l.tree := by
  induction d with
  | single operand ih => exact ih h
  | @link k left o right _ _ =>
    obtain ⟨l, hl⟩ := h o.token (List.mem_append_right _ List.mem_cons_self)
    have hlevel := o.level?_token
    rw [← hl, l.level?_token] at hlevel
    cases hlevel
  | alone operand ih => exact ih h
  | ordered left o right _ _ =>
    obtain ⟨l, hl⟩ := h o.token (List.mem_append_right _ List.mem_cons_self)
    have hlevel := o.level?_token
    rw [← hl, l.level?_token] at hlevel
    cases hlevel
  | not operand _ =>
    obtain ⟨l, hl⟩ := h .not List.mem_cons_self
    cases l <;> cases hl
  | primary operand ih => exact ih h
  | leaf l => exact ⟨l, rfl, rfl⟩
  | group inner _ =>
    obtain ⟨l, hl⟩ := h .opening List.mem_cons_self
    cases l <;> cases hl

theorem parse_of_evaluate {source : String} {context : Context} {value : Option Value}
    (h : evaluate source context = .succeeded value) :
    ∃ e, parse source = .ok e ∧ e.tree.eval context = value := by
  rw [evaluate] at h
  cases hparse : parse source with
  | ok e =>
    rw [hparse] at h
    exact ⟨e, rfl, congrArg Verdict.value h⟩
  | error err =>
    rw [hparse] at h
    cases h

theorem exists_leaf_of_parse {source : String} {p : Path} {e : Expression} (hpath : Path.ofString? source = some p)
    (h : parse source = .ok e) : ∃ l : Leaf, Writes source.toList [l.token] ∧ e.tree = l.tree := by
  obtain ⟨d, ⟨ts, hts, htokens⟩, rfl⟩ := derivation_of_parse h
  have hleaves := exists_leaf_of_tokens (Path.mem_characters_of_ofChars? hpath) hts
  obtain ⟨l, hl, htree⟩ := d.exists_leaf fun t ht => by
    rw [← htokens] at ht
    obtain ⟨u, hu, rfl⟩ := List.mem_map.1 ht
    exact hleaves u hu
  exact ⟨l, ⟨ts, hts, htokens.trans hl⟩, htree⟩

/-! ### Equality with a literal -/

/-- The rule that two texts are equal. -/
def equalityText (s t : String) : String := s ++ " == " ++ t

theorem Writes.equalityText {s t : String} {ts us : List Token} (hs : Writes s.toList ts)
    (ht : Writes t.toList us) : Writes (equalityText s t).toList (ts ++ .equal :: us) := by
  have hequal : Lexeme '=' ('=' :: ' ' :: t.toList) .equal 1 := .equal (by simp [equalsSigns])
  have h := hs.append
    (.blank (c := ' ') (by decide) (.mark_two (by decide) hequal (.blank (c := ' ') (by decide) ht)))
    (separate_cons (by decide) _)
  simpa [Expression.equalityText] using h

theorem parse_equalityText {s t : String} {l m : Leaf} (hs : Writes s.toList [l.token])
    (ht : Writes t.toList [m.token]) (hlength : byteLength (equalityText s t).toList ≤ maxLength) :
    parse (equalityText s t) = .ok ⟨equalityText s t, .compare .equal l.tree m.tree⟩ :=
  parse_of_writes hlength
    (.single (.single (.link (.single (.alone (.primary (.leaf l)))) .equal (.alone (.primary (.leaf m))))))
    (hs.equalityText ht)

/-- **A literal says its text.**  Between quotes of either kind, with a backslash before each backslash and each of
these quotes, every text is one token.  As a rule it has the text as its value in every context; and a rule that
compares the text of a path with it passes exactly if the value of the path is the text. -/
theorem literal_says_text (q : Quote) (s : String) :
    tokens (q.literal s).toList = .ok [⟨.text s, 0⟩] ∧
    (byteLength (q.literal s).toList ≤ 4096 →
      ∀ context, evaluate (q.literal s) context = .succeeded (some (.text s))) ∧
    ∀ (source : String) (p : Path) (context : Context) (v : Value), Path.ofString? source = some p →
      evaluate source context = .succeeded (some v) →
      byteLength (equalityText source (q.literal s)).toList ≤ 4096 →
      (evaluate (equalityText source (q.literal s)) context).success = true ∧
        ((evaluate (equalityText source (q.literal s)) context).passed = true ↔ v = .text s) := by
  refine ⟨tokens_literal q s, ?_, ?_⟩
  · intro hlength context
    have hparse : parse (q.literal s) = .ok ⟨q.literal s, .literal (.text s)⟩ :=
      parse_of_writes hlength (.single (.single (.single (.alone (.primary (.leaf (.text s)))))))
        (writes_literal q s)
    rw [evaluate, hparse]
    rfl
  · intro source p context v hpath hvalue hlength
    obtain ⟨e, hparse, hv⟩ := parse_of_evaluate hvalue
    obtain ⟨l, hwrites, htree⟩ := exists_leaf_of_parse hpath hparse
    have hrule := parse_equalityText (m := .text s) hwrites (writes_literal q s) hlength
    constructor
    · rw [evaluate, hrule]
      rfl
    · rw [passed_evaluate_of_parse hrule, Tree.truthy_eval_compare, ← htree, hv]
      have hsymm : looselyEqual v (.text s) = true ↔ looselyEqual (.text s) v = true :=
        ⟨equivalence_looselyEqual.symm, equivalence_looselyEqual.symm⟩
      exact hsymm.trans (looselyEqual_text_iff s v)

/-- A text of quotes, backslashes and operators compares as the text that it is. -/
theorem literal_says_text_operators :
    let s := "\\' || true || '\\n"
    evaluate (Quote.single.literal s) .empty = .succeeded (some (.text s)) ∧
      (evaluate (equalityText " note " (Quote.single.literal s)) (.bind .empty "note" (.text s))).passed = true ∧
      (evaluate (equalityText " note " (Quote.single.literal s)) (.bind .empty "note" (.bool true))).passed =
        false := by
  intro s
  obtain ⟨-, hvalue, hequality⟩ := literal_says_text .single s
  have hlength : byteLength (equalityText " note " (Quote.single.literal s)).toList ≤ 4096 := by decide
  refine ⟨hvalue (by decide) .empty, ?_, ?_⟩
  · exact (hequality " note " ⟨[.key "note"]⟩ _ _ rfl rfl hlength).2.2 rfl
  · rw [← Bool.not_eq_true, (hequality " note " ⟨[.key "note"]⟩ _ (.bool true) rfl rfl hlength).2]
    intro h
    cases h

end RecordGate.Expression
