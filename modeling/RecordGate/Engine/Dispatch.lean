import RecordGate.Engine.Basic

/-!
# Dispatch

A dispatch works on the listeners and the workflows that were installed when it began.  It first calls
the listeners of the trigger, whose failures it counts, and then visits the workflows of the trigger in
their order.  A workflow whose condition does not hold is skipped; one that is declared detached is only
started, unless the dispatch waits for all; any other is run to its end.

A listener may use the engine, which is why it is given the whole world; a handler is given the
outside only.
-/

namespace RecordGate

/-- An engine and the state of what lies outside. -/
structure World (ι σ : Type) where
  engine : Engine ι
  outside : σ
  deriving Inhabited

/-- The code that an engine calls. -/
structure Host (ι σ : Type) where
  handle : Handler σ
  hear : ι → String → Event → World ι σ → Reply String × World ι σ

/-- Whether a dispatch waits for the workflows that are declared detached. -/
inductive Delivery where
  | asDeclared
  | awaited
  deriving DecidableEq, Inhabited

/-- A visited workflow and how it ended. -/
structure Report.Entry where
  name : String
  outcome : Outcome
  deriving DecidableEq, Inhabited

/-- What a dispatch did. -/
structure Report where
  trigger : String
  version : Nat
  listenerFailures : Nat
  entries : List Report.Entry
  deriving DecidableEq, Inhabited

namespace Report

/-- The outcome of the first workflow of a name. -/
def outcome? (r : Report) (name : String) : Option Outcome :=
  (r.entries.find? fun e => e.name == name).map (·.outcome)

/-- A report without any failure. -/
def isClean (r : Report) : Bool :=
  r.listenerFailures == 0 && !r.entries.any (·.outcome.isFailure)

def Entry.toValue (e : Entry) : Value :=
  .ofFields [("name", .text e.name), ("outcome", e.outcome.toValue)]

def toFields (r : Report) : Entries Value :=
  [("trigger", .text r.trigger), ("version", .ofNat r.version),
    ("listener_failures", .ofNat r.listenerFailures),
    ("workflows", .list (r.entries.map Entry.toValue))]

end Report

namespace Dispatch

variable {ι σ : Type}

/-- Call listeners one after another; how many of them failed or broke down. -/
def callListeners (host : Host ι σ) (trigger : String) (event : Event) :
    List ι → World ι σ → Nat × World ι σ
  | [], w => (0, w)
  | listener :: rest, w =>
    let (reply, w) := host.hear listener trigger event w
    let (failures, w) := callListeners host trigger event rest w
    match reply with
    | .done => (failures, w)
    | _ => (failures + 1, w)

/-- What visiting workflows gives: an entry for each, and the runs that were only started. -/
structure Visit where
  entries : List Report.Entry
  started : List DetachedRun
  deriving Inhabited

def Visit.add (name : String) (outcome : Outcome) (started : List DetachedRun) (v : Visit) : Visit :=
  ⟨⟨name, outcome⟩ :: v.entries, started ++ v.started⟩

/-- Visit one workflow: how it ended, and its run if that was only started. -/
def visitOne (host : Host ι σ) (delivery : Delivery) (o : Occurrence) (conditions : Context)
    (workflow : Workflow) (w : World ι σ) : (Outcome × List DetachedRun) × World ι σ :=
  let (runs, evaluator) := Workflow.meets workflow.condition conditions w.engine.evaluator
  let w : World ι σ := { w with engine := { w.engine with evaluator := evaluator } }
  if !runs then ((.skipped, []), w)
  else if workflow.isDetached && delivery == .asDeclared then
    ((.detached, [⟨workflow, o⟩]), w)
  else
    let (outcome, outside) := workflow.run host.handle o w.outside
    ((outcome, []), { w with outside := outside })

/-- Visit workflows one after another. -/
def visit (host : Host ι σ) (delivery : Delivery) (o : Occurrence) (conditions : Context) :
    List Workflow → World ι σ → Visit × World ι σ
  | [], w => (⟨[], []⟩, w)
  | workflow :: rest, w =>
    let ((outcome, started), w) := visitOne host delivery o conditions workflow w
    let (others, w) := visit host delivery o conditions rest w
    (others.add workflow.name outcome started, w)

/-- Dispatch an event under a trigger at the time `now`: the report, and the runs that were only
started. -/
def run (host : Host ι σ) (delivery : Delivery) (trigger : String) (event : Event) (now : Instant)
    (w : World ι σ) : (Report × List DetachedRun) × World ι σ :=
  let index := w.engine.index
  let (failures, w) := callListeners host trigger event (w.engine.listenersOf trigger) w
  let o : Occurrence := ⟨trigger, event, event.templateRoot now⟩
  let (v, w) := visit host delivery o event.conditionContext (index.matching trigger) w
  ((⟨trigger, index.version, failures, v.entries⟩, v.started), w)

end Dispatch

end RecordGate
