import RecordGate.Permission.Gate
import RecordGate.Proofs.Expression.Memory

/-!
# The answers of the gate

The gate asks an evaluator that remembers.  Every question of the gate has one answer, which depends on
the rules, the caller and the record alone and not on what the evaluator remembers.  A question made of
questions is followed from one to the next, so each of the gate's questions is a few steps of `Answers`.

`Answers question a` says that a sound evaluator answers `a` and is left sound.  It is kept by the two ways in which
questions are made of others (`answers_pure`, `answers_bind`), and the two recursions of the gate, keeping the items
that pass a test and answering the rules of a set, are each one induction on top of that.  The answer to a check is
`decides`: the verdict of the rule if there is one, and otherwise what the setting for missing rules says, which is to
grant under `allow` and to deny under `deny` (`decides_of_no_rule`).

Main statement: `answers_check`.
-/

namespace RecordGate

open RecordGate.Evaluator

namespace Permission

/-! ### Questions made of questions -/

variable {α β : Type}

theorem answers_pure (a : α) : Answers (pure a : Asking α) a := fun _ he => ⟨rfl, he⟩

theorem answers_bind {question : Asking α} {next : α → Asking β} {a : α} {b : β}
    (h : Answers question a) (hnext : Answers (next a) b) : Answers (question >>= next) b := by
  intro e he
  obtain ⟨ha, hsound⟩ := h e he
  change (next (question e).1 (question e).2).1 = b ∧ Sound (next (question e).1 (question e).2).2
  rw [ha]
  exact hnext _ hsound

/-! ### Decisions -/

/-- Whether a caller may perform an action on a record, decided without a memory. -/
def decides (missing : MissingRule) (rules : RuleSet) (caller : Caller) (snapshot : Option Snapshot)
    (action : String) : Bool :=
  match rules.find? action with
  | none => missing.allows
  | some rule => (Expression.evaluate rule (context caller snapshot action)).passed

/-- An action without a rule is granted if missing rules allow, and denied if they deny. -/
theorem decides_of_no_rule {rules : RuleSet} {action : String} (hnone : rules.find? action = none)
    (missing : MissingRule) (caller : Caller) (snapshot : Option Snapshot) :
    decides missing rules caller snapshot action = decide (missing = .allow) := by
  rw [decides, hnone]
  cases missing with
  | allow => rfl
  | deny => rfl

theorem answers_passes (rule : String) (context : Context) :
    Answers (passes rule context) (Expression.evaluate rule context).passed :=
  answers_test rule context

/-- **The gate decides as the rules do.** -/
theorem answers_check (missing : MissingRule) (rules : RuleSet) (caller : Caller)
    (snapshot : Option Snapshot) (action : String) :
    Answers (check missing rules caller snapshot action)
      (decides missing rules caller snapshot action) := by
  unfold check decides
  cases rules.find? action with
  | none => exact answers_pure _
  | some rule => exact answers_passes rule _

theorem check_of_rule {rules : RuleSet} {action rule : String} (hrule : rules.find? action = some rule)
    {evaluator : Evaluator} (hsound : evaluator.Sound) (missing : MissingRule) (caller : Caller)
    (snapshot : Option Snapshot) :
    (check missing rules caller snapshot action evaluator).1 =
      (Expression.evaluate rule (context caller snapshot action)).passed := by
  have hanswer := answers_check missing rules caller snapshot action evaluator hsound
  rw [hanswer.1, decides, hrule]

theorem answers_keep {test : α → Asking Bool} {p : α → Bool} (h : ∀ a, Answers (test a) (p a))
    (items : List α) : Answers (keep test items) (items.filter p) := by
  induction items with
  | nil => exact answers_pure _
  | cons a rest ih =>
    refine answers_bind (h a) (answers_bind ih ?_)
    cases hp : p a with
    | false =>
      rw [List.filter_cons_of_neg (by simp [hp])]
      exact answers_pure _
    | true =>
      rw [List.filter_cons_of_pos hp]
      exact answers_pure _

theorem answers_allowedActions (missing : MissingRule) (rules : RuleSet) (caller : Caller)
    (snapshot : Option Snapshot) :
    Answers (allowedActions missing rules caller snapshot)
      ((candidates rules).filter (decides missing rules caller snapshot)) :=
  answers_keep (answers_check missing rules caller snapshot) _

theorem answers_permitted (missing : MissingRule) (rules : RuleSet) (caller : Caller)
    (records : List Snapshot) (action : String) :
    Answers (permitted missing rules caller records action)
      (records.filter fun record => decides missing rules caller (some record) action) :=
  answers_keep (fun record => answers_check missing rules caller (some record) action) _

theorem answers_answers (context : Context) (rules : Entries String) :
    Answers (answers context rules)
      (rules.map fun rule => (rule.1, (Expression.evaluate rule.2 context).passed)) := by
  induction rules with
  | nil => exact answers_pure _
  | cons rule rest ih =>
    obtain ⟨action, rule⟩ := rule
    exact answers_bind (answers_passes rule context) (answers_bind ih (answers_pure _))

theorem answers_evaluateAll (rules : RuleSet) (context : Context) :
    Answers (evaluateAll rules context)
      (.ofList (rules.entries.map fun rule =>
        (rule.1, (Expression.evaluate rule.2 context).passed))) :=
  answers_bind (answers_answers context rules.entries) (answers_pure _)

end Permission

end RecordGate
