import RecordGate.Proofs.Permission.Questions

/-!
# Reported rules

When rules are loaded, those that do not parse are reported.  When a question is asked, rules are parsed again,
by an evaluator that remembers errors as well as trees.  The two agree about every rule: one that was reported is
answered with an error in every context and so denies, whatever is set for missing rules; one that was not
reported has a value in every context; and the setting decides where there is no rule and nowhere else.

The setting for missing rules is `allow` or `deny`: an action without a rule is granted under the first and denied
under the second, to every caller and on every record.  It never stands in for a rule that does not parse.

What is reported is brought to parsing (`reports_iff`), what is answered to evaluation without memory (`decides`), and
evaluation fails exactly if parsing does (`Expression.success_evaluate_iff`).  The list of granted actions asks the same
question for each candidate, so that an action that is reported is on no list.

Main statement: `fails_closed_iff_reported`.
-/

namespace RecordGate

/-! ### What is reported -/

namespace RuleSet

/-- The check of the rules reports the rule of an action. -/
def Reports (rules : RuleSet) (action : String) : Prop := ∃ issue ∈ rules.issues, issue.action = action

instance (rules : RuleSet) (action : String) : Decidable (rules.Reports action) :=
  inferInstanceAs (Decidable (∃ issue ∈ rules.issues, issue.action = action))

theorem error?_eq_some_iff {rule : String} {error : Expression.SyntaxError} :
    error? rule = some error ↔ Expression.parse rule = .error error := by
  unfold error?
  cases Expression.parse rule with
  | ok e => simp
  | error e => simp

/-- Exactly the actions are reported that have a rule with an error. -/
theorem reports_iff {rules : RuleSet} {action : String} :
    rules.Reports action ↔
      ∃ rule error, rules.find? action = some rule ∧ Expression.parse rule = .error error := by
  constructor
  · intro h
    obtain ⟨issue, hissue, rfl⟩ := h
    obtain ⟨⟨action, rule⟩, hentry, hfound⟩ := List.mem_filterMap.1 hissue
    obtain ⟨error, herror, rfl⟩ := Option.map_eq_some_iff.1 hfound
    exact ⟨rule, error, Table.mem_entries_iff.1 hentry, error?_eq_some_iff.1 herror⟩
  · intro h
    obtain ⟨rule, error, hrule, hparse⟩ := h
    refine ⟨⟨action, error⟩, List.mem_filterMap.2 ⟨(action, rule), ?_, ?_⟩, rfl⟩
    · exact Table.mem_entries_iff.2 hrule
    · simp [error?_eq_some_iff.2 hparse]

theorem reports_iff_of_rule {rules : RuleSet} {action rule : String} (hrule : rules.find? action = some rule) :
    rules.Reports action ↔ ∃ error, Expression.parse rule = .error error := by
  rw [reports_iff]
  constructor
  · rintro ⟨other, error, hother, hparse⟩
    rw [hrule] at hother
    obtain rfl := Option.some.inj hother
    exact ⟨error, hparse⟩
  · rintro ⟨error, hparse⟩
    exact ⟨rule, error, hrule, hparse⟩

end RuleSet

theorem Expression.success_evaluate_iff {rule : String} {context : Context} :
    (evaluate rule context).success = true ↔ ¬ ∃ error, parse rule = .error error := by
  unfold evaluate
  cases hparse : parse rule with
  | ok e => simp [verdict, eval, Verdict.succeeded]
  | error error => simp [verdict, Verdict.failed]

namespace Permission

/-! ### What is denied -/

variable {rules : RuleSet} {action : String}

theorem decides_of_reports (h : rules.Reports action) (missing : MissingRule) (caller : Caller)
    (snapshot : Option Snapshot) : decides missing rules caller snapshot action = false := by
  obtain ⟨rule, error, hrule, hparse⟩ := RuleSet.reports_iff.1 h
  simp [decides, hrule, Expression.evaluate, hparse, Expression.verdict]

/-- **Rules fail exactly where they are reported, and then they deny.**  Whatever an evaluator of any capacity was
asked before: an action that the check of the rules reports is denied, whatever is set for missing rules, and is
never among the allowed actions; the rule of an action is evaluated without an error, in whatever context, if and
only if it is not reported; and an action without a rule is granted if missing rules allow, and denied if they deny. -/
theorem fails_closed_iff_reported (capacity : Nat) (earlier : List Question) (missing : MissingRule)
    (rules : RuleSet) (caller : Caller) (snapshot : Option Snapshot) (action : String) :
    (rules.Reports action →
      (check missing rules caller snapshot action (.asked capacity earlier)).1 = false ∧
        action ∉ (allowedActions missing rules caller snapshot (.asked capacity earlier)).1) ∧
    (∀ rule, rules.find? action = some rule → ∀ context,
      (((Evaluator.asked capacity earlier).evaluate rule context).1.success = true ↔
        ¬ rules.Reports action)) ∧
    (rules.find? action = none →
      (check missing rules caller snapshot action (.asked capacity earlier)).1 = decide (missing = .allow)) := by
  have hcheck := (answers_check missing rules caller snapshot action).fst_asked capacity earlier
  have hallowed := (answers_allowedActions missing rules caller snapshot).fst_asked capacity earlier
  refine ⟨?_, ?_, ?_⟩
  · intro hreported
    have hdenied := decides_of_reports hreported missing caller snapshot
    constructor
    · rw [hcheck, hdenied]
    · intro hmem
      rw [hallowed] at hmem
      have hgranted := (List.mem_filter.1 hmem).2
      rw [hdenied] at hgranted
      cases hgranted
  · intro rule hrule context
    have hverdict := (Evaluator.answers_evaluate rule context).fst_asked capacity earlier
    rw [hverdict, Expression.success_evaluate_iff, RuleSet.reports_iff_of_rule hrule]
  · intro hnone
    rw [hcheck, decides_of_no_rule hnone]

/-- Two rules, one of which assigns where it should compare. -/
def misspelled : RuleSet := .insert (.insert .empty "read" "true") "update" "user.id = entity.createdBy"

/-- What an evaluator was asked before: a rule, and then the misspelled one. -/
def heard : List Question := [.evaluate "true" .empty, .check .allow misspelled .anonymous none "update"]

/-- The misspelled rule is reported and denies, the other one has a value, and an action without a rule is granted by
the one setting and denied by the other; the evaluator remembers one rule at a time. -/
theorem fails_closed_iff_reported_misspelled :
    misspelled.Reports "update" ∧
      (check .allow misspelled .anonymous none "update" (.asked 1 heard)).1 = false ∧
      "update" ∉ (allowedActions .allow misspelled .anonymous none (.asked 1 heard)).1 ∧
      ((Evaluator.asked 1 heard).evaluate "true" (context .anonymous none "read")).1.success = true ∧
      (check .allow misspelled .anonymous none "delete" (.asked 1 heard)).1 = true ∧
      (check .deny misspelled .anonymous none "delete" (.asked 1 heard)).1 = false := by
  have hreported : misspelled.Reports "update" := by decide +kernel
  have hunreported : ¬ misspelled.Reports "read" := by decide +kernel
  have hagrees (missing : MissingRule) (action : String) :=
    fails_closed_iff_reported 1 heard missing misspelled .anonymous none action
  obtain ⟨hdenied, hmissing⟩ := (hagrees .allow "update").1 hreported
  have hread := (hagrees .allow "read").2.1 "true" rfl (context .anonymous none "read")
  have hallowed := (hagrees .allow "delete").2.2 rfl
  have hrefused := (hagrees .deny "delete").2.2 rfl
  exact ⟨hreported, hdenied, hmissing, hread.2 hunreported, hallowed, hrefused⟩

end Permission

end RecordGate
