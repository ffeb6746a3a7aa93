import RecordGate.Permission.Rules
import RecordGate.Permission.Context
import RecordGate.Expression.Evaluator

/-!
# The gate

The gate decides whether a caller may perform an action on a record.  An action with a rule is decided by
the rule, which grants only when it passes; an action without one by the setting for missing rules.  Each
question may change what the evaluator remembers, and nothing else.
-/

namespace RecordGate.Permission

/-- A question asked of an evaluator. -/
abbrev Asking (α : Type) := StateM Evaluator α

/-- Whether a rule passes. -/
def passes (rule : String) (context : Context) : Asking Bool := fun e => e.test rule context

/-- Whether a caller may perform an action on a record. -/
def check (missing : MissingRule) (rules : RuleSet) (caller : Caller) (snapshot : Option Snapshot)
    (action : String) : Asking Bool :=
  match rules.find? action with
  | none => pure missing.allows
  | some rule => passes rule (context caller snapshot action)

/-- The members of a list that pass a test. -/
def keep {α : Type} (test : α → Asking Bool) : List α → Asking (List α)
  | [] => pure []
  | a :: rest => do
    let kept ← test a
    let others ← keep test rest
    pure (if kept then a :: others else others)

/-- The actions that every entity knows. -/
def standardActions : List String := ["create", "read", "update", "delete"]

/-- The standard actions, and after them the others that have a rule. -/
def candidates (rules : RuleSet) : List String :=
  standardActions ++ rules.names.filter fun action => !standardActions.contains action

/-- The actions that a caller may perform on a record. -/
def allowedActions (missing : MissingRule) (rules : RuleSet) (caller : Caller)
    (snapshot : Option Snapshot) : Asking (List String) :=
  keep (check missing rules caller snapshot) (candidates rules)

/-- The records on which a caller may perform an action. -/
def permitted (missing : MissingRule) (rules : RuleSet) (caller : Caller) (records : List Snapshot)
    (action : String) : Asking (List Snapshot) :=
  keep (fun record => check missing rules caller (some record) action) records

/-- The answers of all rules in one context. -/
def answers (context : Context) : Entries String → Asking (Entries Bool)
  | [] => pure []
  | (action, rule) :: rest => do
    let answer ← passes rule context
    let others ← answers context rest
    pure ((action, answer) :: others)

/-- Every action that has a rule, with the answer of the rule. -/
def evaluateAll (rules : RuleSet) (context : Context) : Asking (Table Bool) := do
  let found ← answers context rules.entries
  pure (.ofList found)

end RecordGate.Permission
