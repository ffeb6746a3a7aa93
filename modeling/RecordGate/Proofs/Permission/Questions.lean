import RecordGate.Proofs.Permission.Answers
import RecordGate.Proofs.Workflow.Calls

/-!
# What was asked before

The gate and the conditions of workflows share one evaluator, so that what it remembers when a question is
asked was left there by questions of every kind.  Each of them leaves a sound evaluator sound, and so does a
sequence of them.  An evaluator that was empty once gives every question its answer, whatever was asked in
between.

Main statement: `Evaluator.Answers.fst_asked`.
-/

namespace RecordGate

/-- What an evaluator can be asked, directly or through the gate and the conditions of workflows. -/
inductive Question where
  | evaluate (rule : String) (context : Context)
  | check (missing : MissingRule) (rules : RuleSet) (caller : Caller) (snapshot : Option Snapshot)
      (action : String)
  | allowedActions (missing : MissingRule) (rules : RuleSet) (caller : Caller)
      (snapshot : Option Snapshot)
  | permitted (missing : MissingRule) (rules : RuleSet) (caller : Caller) (records : List Snapshot)
      (action : String)
  | evaluateAll (rules : RuleSet) (context : Context)
  | meets (condition : Option String) (context : Context)

/-- The evaluator as a question leaves it. -/
def Question.leave (e : Evaluator) : Question → Evaluator
  | evaluate rule context => (e.evaluate rule context).2
  | check missing rules caller snapshot action =>
    (Permission.check missing rules caller snapshot action e).2
  | allowedActions missing rules caller snapshot =>
    (Permission.allowedActions missing rules caller snapshot e).2
  | permitted missing rules caller records action =>
    (Permission.permitted missing rules caller records action e).2
  | evaluateAll rules context => (Permission.evaluateAll rules context e).2
  | meets condition context => (Workflow.meets condition context e).2

theorem Question.sound_leave {e : Evaluator} (h : e.Sound) (q : Question) : (q.leave e).Sound := by
  cases q with
  | evaluate rule context => exact (Evaluator.answers_evaluate rule context e h).2
  | check missing rules caller snapshot action =>
    exact (Permission.answers_check missing rules caller snapshot action e h).2
  | allowedActions missing rules caller snapshot =>
    exact (Permission.answers_allowedActions missing rules caller snapshot e h).2
  | permitted missing rules caller records action =>
    exact (Permission.answers_permitted missing rules caller records action e h).2
  | evaluateAll rules context => exact (Permission.answers_evaluateAll rules context e h).2
  | meets condition context => exact (Workflow.answers_meets condition context e h).2

namespace Evaluator

/-- An evaluator of the given capacity that has been asked some questions. -/
def asked (capacity : Nat) (earlier : List Question) : Evaluator :=
  earlier.foldl Question.leave (.ofCapacity capacity)

/-- **Whatever was asked, an evaluator is sound.** -/
theorem sound_asked (capacity : Nat) (earlier : List Question) : (asked capacity earlier).Sound := by
  have hrun : ∀ e : Evaluator, e.Sound → (earlier.foldl Question.leave e).Sound := by
    induction earlier with
    | nil =>
      intro e h
      exact h
    | cons q rest ih =>
      intro e h
      rw [List.foldl_cons]
      exact ih _ (q.sound_leave h)
  exact hrun _ (sound_ofCapacity capacity)

theorem Answers.fst_asked {α : Type} {question : Evaluator → α × Evaluator} {a : α}
    (h : Answers question a) (capacity : Nat) (earlier : List Question) :
    (question (asked capacity earlier)).1 = a := by
  apply (h _ _).1
  exact sound_asked capacity earlier

end Evaluator

end RecordGate
