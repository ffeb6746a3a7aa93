import RecordGate.Workflow.Definition
import RecordGate.Template.Placeholder
import RecordGate.Expression.Evaluator
import RecordGate.Event

/-!
# Running a workflow

A handler performs actions.  It is given an action with its parameters filled in, may change the state of
what lies outside the library, and replies that it is done, that it failed, or that it broke down.  A run
performs the recognized actions of a workflow in their order and stops at the first that is not done.
-/

namespace RecordGate

/-- What a handler is told besides the action. -/
structure Invocation where
  trigger : String
  workflow : String
  event : Event
  params : Value
  deriving Inhabited

/-- The reply of code that the library calls. -/
inductive Reply (ε : Type) where
  | done
  | failed (error : ε)
  | panicked (reason : String)
  deriving Inhabited

/-- Performs actions on the state of the outside. -/
abbrev Handler (σ : Type) := Action → Invocation → σ → Reply ActionError × σ

/-- The error of a reply, if it is not `done`. -/
def Reply.error? : Reply ActionError → Option ActionError
  | done => none
  | failed e => some e
  | panicked reason => some (.panicked reason)

/-- How a workflow ended within a dispatch. -/
inductive Outcome where
  | skipped
  | completed (actions : Nat)
  | failed (actions : Nat) (error : ActionError)
  | detached
  deriving DecidableEq, Inhabited

def Outcome.isFailure : Outcome → Bool
  | failed _ _ => true
  | _ => false

def Outcome.toValue : Outcome → Value
  | skipped => .ofFields [("status", .text "skipped")]
  | completed actions =>
    .ofFields [("status", .text "completed"), ("actions_run", .ofNat actions)]
  | failed actions error =>
    .ofFields [("status", .text "failed"), ("actions_run", .ofNat actions),
      ("error", .text error.message)]
  | detached => .ofFields [("status", .text "detached")]

/-- The event that a dispatch is about, under its trigger, with what templates see of it. -/
structure Occurrence where
  trigger : String
  event : Event
  root : Value
  deriving Inhabited

namespace Occurrence

/-- The parameters of an action, filled in; `null` when it has none. -/
def params (o : Occurrence) (action : Action) : Value :=
  ((action.params?).map (Template.fillValue o.root)).getD .null

def invocation (o : Occurrence) (workflow : Workflow) (action : Action) : Invocation :=
  ⟨o.trigger, workflow.name, o.event, o.params action⟩

end Occurrence

namespace Workflow

variable {σ : Type}

/-- Perform actions up to the first that is not done; `count` have been performed before. -/
def perform (handle : Handler σ) (invoke : Action → Invocation) (count : Nat) :
    List Action → σ → Outcome × σ
  | [], s => (.completed count, s)
  | action :: rest, s =>
    let (reply, s) := handle action (invoke action) s
    match reply.error? with
    | some error => (.failed count error, s)
    | none => perform handle invoke (count + 1) rest s

/-- Run a workflow on an occurrence. -/
def run (w : Workflow) (handle : Handler σ) (o : Occurrence) (s : σ) : Outcome × σ :=
  perform handle (o.invocation w) 0 w.recognized s

/-- Whether a workflow with the given condition runs: an error in the condition keeps it from running. -/
def meets (condition : Option String) (context : Context) (e : Evaluator) : Bool × Evaluator :=
  match condition with
  | none => (true, e)
  | some rule =>
    let (verdict, e) := e.evaluate rule context
    (verdict.error.isNone && verdict.passed, e)

end Workflow

/-- A run that was started without waiting for its end. -/
structure DetachedRun where
  workflow : Workflow
  occurrence : Occurrence
  deriving Inhabited

def DetachedRun.run {σ : Type} (d : DetachedRun) (handle : Handler σ) (s : σ) : Outcome × σ :=
  d.workflow.run handle d.occurrence s

end RecordGate
