import RecordGate.Proofs.Expression.Writing

/-!
# Rules made of rules

Rules are put together as texts: in parentheses, behind a negation, on both sides of an operator.  Whatever
the parts contain, the parentheses around them keep them apart, and the verdict on the whole is the one
that the operator makes of the verdicts on the parts.

A text that parses writes the tokens of a derivation, and the composed text writes the tokens of the derivation that is
composed in the same way.  That one is deeper by its parentheses and its negation, which is the only reason for which
a text that is not too long may be refused.  Nothing is said about the characters of the parts: a parenthesis between
quotes belongs to a token.

Main statement: `parse_composed`.
-/

namespace RecordGate.Expression

open RecordGate.Text

/-! ### Composition -/

/-- Two rules that both have to pass. -/
def conjunctionText (s₁ s₂ : String) : String := "(" ++ s₁ ++ ") && (" ++ s₂ ++ ")"

/-- Two rules of which one has to pass. -/
def disjunctionText (s₁ s₂ : String) : String := "(" ++ s₁ ++ ") || (" ++ s₂ ++ ")"

/-- A rule that must not pass. -/
def negationText (s : String) : String := "!(" ++ s ++ ")"

def parenthesizedText (s : String) : String := "(" ++ s ++ ")"

/-- A rule in parentheses. -/
def Derivation.bracketed (d : Derivation (.chain .disjunction)) : Derivation .unary :=
  .primary (.group d)

/-- An operand of equality comparisons in the place of an operand of conjunctions. -/
def Derivation.compared (d : Derivation .unary) : Derivation (.chain .equality) := .single (.alone d)

/-- An operand in the place of a whole rule. -/
def Derivation.whole (d : Derivation .unary) : Derivation (.chain .disjunction) :=
  .single (.single d.compared)

theorem Writes.conjunctionText {s₁ s₂ : String} {ts us : List Token} (h₁ : Writes s₁.toList ts)
    (h₂ : Writes s₂.toList us) :
    Writes (conjunctionText s₁ s₂).toList
      ((.opening :: (ts ++ [.closing])) ++ .and :: (.opening :: (us ++ [.closing]))) := by
  have h := h₁.parenthesized.append
    (.blank (c := ' ') (by decide) (.mark_two (c := '&') (by decide) (.and _)
      (.blank (c := ' ') (by decide) h₂.parenthesized)))
    (separate_cons (by decide) _)
  simpa [Expression.conjunctionText] using h

theorem Writes.disjunctionText {s₁ s₂ : String} {ts us : List Token} (h₁ : Writes s₁.toList ts)
    (h₂ : Writes s₂.toList us) :
    Writes (disjunctionText s₁ s₂).toList
      ((.opening :: (ts ++ [.closing])) ++ .or :: (.opening :: (us ++ [.closing]))) := by
  have h := h₁.parenthesized.append
    (.blank (c := ' ') (by decide) (.mark_two (c := '|') (by decide) (.or _)
      (.blank (c := ' ') (by decide) h₂.parenthesized)))
    (separate_cons (by decide) _)
  simpa [Expression.disjunctionText] using h

theorem Writes.negationText {s : String} {ts : List Token} (h : Writes s.toList ts) :
    Writes (negationText s).toList (.not :: (.opening :: (ts ++ [.closing]))) := by
  have h' := Writes.mark (c := '!') (by decide) (.not rfl) h.parenthesized
  simpa [Expression.negationText] using h'

theorem Writes.parenthesizedText {s : String} {ts : List Token} (h : Writes s.toList ts) :
    Writes (parenthesizedText s).toList (.opening :: (ts ++ [.closing])) := by
  simpa [Expression.parenthesizedText] using h.parenthesized

/-- The text, if it is not too long, is refused for its depth alone, or has the given verdicts, which pass
where the given test holds. -/
def ParsesTo (text : String) (verdict : Context → Verdict) (passes : Context → Bool) : Prop :=
  byteLength text.toList ≤ 4096 →
    parse text = .error .tooDeep ∨
      ∃ e, parse text = .ok e ∧
        ∀ context, e.eval context = verdict context ∧ (e.eval context).passed = passes context

theorem parsesTo_of_writes {text : String} {verdict : Context → Verdict} {passes : Context → Bool}
    (d : Derivation (.chain .disjunction)) (hd : Writes text.toList d.tokens)
    (hv : ∀ context, .succeeded (d.tree.eval context) = verdict context ∧
      truthy (d.tree.eval context) = passes context) :
    ParsesTo text verdict passes := by
  intro hlen
  rw [parse_of_writes hlen d hd]
  by_cases hdepth : d.depth ≤ maxDepth
  · rw [if_pos hdepth]
    exact .inr ⟨_, rfl, hv⟩
  · rw [if_neg hdepth]
    exact .inl rfl

/-- **Rules compose as texts.**  Put together in parentheses, two rules that can be parsed make a rule
that is too deep or can be parsed; a conjunction has the verdict on the second rule if the first passes
and the one on the first otherwise, a disjunction the other way round, a negation the opposite of
whether the rule passes, and parentheses change nothing.  So the whole passes as the operator says of
whether the parts pass. -/
theorem parse_composed {s₁ s₂ : String} {e₁ e₂ : Expression} (h₁ : parse s₁ = .ok e₁)
    (h₂ : parse s₂ = .ok e₂) :
    ParsesTo (conjunctionText s₁ s₂)
      (fun c => if (e₁.eval c).passed then e₂.eval c else e₁.eval c)
      (fun c => (e₁.eval c).passed && (e₂.eval c).passed) ∧
    ParsesTo (disjunctionText s₁ s₂)
      (fun c => if (e₁.eval c).passed then e₁.eval c else e₂.eval c)
      (fun c => (e₁.eval c).passed || (e₂.eval c).passed) ∧
    ParsesTo (negationText s₁)
      (fun c => .succeeded (some (.bool !(e₁.eval c).passed)))
      (fun c => !(e₁.eval c).passed) ∧
    ParsesTo (parenthesizedText s₁) (fun c => e₁.eval c) (fun c => (e₁.eval c).passed) := by
  obtain ⟨d₁, hd₁, rfl⟩ := derivation_of_parse h₁
  obtain ⟨d₂, hd₂, rfl⟩ := derivation_of_parse h₂
  refine ⟨?_, ?_, ?_, ?_⟩
  · refine parsesTo_of_writes
      (.single (.link (.single d₁.bracketed.compared) .and d₂.bracketed.compared))
      (hd₁.conjunctionText hd₂) fun c => ?_
    change Verdict.succeeded (Tree.eval c (.and d₁.tree d₂.tree)) = _ ∧
      truthy (Tree.eval c (.and d₁.tree d₂.tree)) = _
    by_cases ht : truthy (d₁.tree.eval c) = true <;>
      simp [Tree.eval, eval, ht]
  · refine parsesTo_of_writes
      (.link (.single (.single d₁.bracketed.compared)) .or (.single d₂.bracketed.compared))
      (hd₁.disjunctionText hd₂) fun c => ?_
    change Verdict.succeeded (Tree.eval c (.or d₁.tree d₂.tree)) = _ ∧
      truthy (Tree.eval c (.or d₁.tree d₂.tree)) = _
    by_cases ht : truthy (d₁.tree.eval c) = true <;>
      simp [Tree.eval, eval, ht]
  · refine parsesTo_of_writes (Derivation.whole (.not d₁.bracketed)) hd₁.negationText fun c => ?_
    change Verdict.succeeded (Tree.eval c (.not d₁.tree)) = _ ∧ truthy (Tree.eval c (.not d₁.tree)) = _
    simp [Tree.eval, eval, truthy, Value.truthy]
  · refine parsesTo_of_writes d₁.bracketed.whole hd₁.parenthesizedText fun c => ?_
    exact ⟨rfl, (Verdict.passed_succeeded _).symm⟩

/-- A parenthesis inside a text does not end the parentheses around the rule. -/
theorem parse_composed_quoted_parenthesis :
    ∃ e₁ e₂ e, parse "')'" = .ok e₁ ∧ parse "!a" = .ok e₂ ∧ parse "(')') && (!a)" = .ok e ∧
      ∀ c, (e.eval c).passed = ((e₁.eval c).passed && (e₂.eval c).passed) := by
  have hparses (s : String) (hok : (parse s).isOk = true) : ∃ e, parse s = .ok e := by
    cases hs : parse s with
    | error error =>
      rw [hs] at hok
      cases hok
    | ok e => exact ⟨e, rfl⟩
  obtain ⟨e₁, h₁⟩ := hparses "')'" (by decide +kernel)
  obtain ⟨e₂, h₂⟩ := hparses "!a" (by decide +kernel)
  obtain ⟨e', h'⟩ := hparses (conjunctionText "')'" "!a") (by decide +kernel)
  have hlength : byteLength (conjunctionText "')'" "!a").toList ≤ 4096 := by decide +kernel
  rcases (parse_composed h₁ h₂).1 hlength with hdeep | ⟨e, he, hv⟩
  · rw [hdeep] at h'
    cases h'
  · exact ⟨e₁, e₂, e, h₁, h₂, he, fun c => (hv c).2⟩

end RecordGate.Expression
