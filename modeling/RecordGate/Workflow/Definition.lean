import RecordGate.Workflow.Action

/-!
# Workflows

A definition declares a workflow: its trigger, a condition if it has one, its actions in order, and whether
it is detached from the dispatch that starts it.  A workflow is a definition with its actions resolved.
-/

namespace RecordGate

structure WorkflowDefinition where
  name : String
  trigger : String
  condition : Option String
  actions : List ActionSpec
  isDetached : Bool
  deriving Inhabited

namespace WorkflowDefinition

/-- A workflow that does nothing yet. -/
def ofTrigger (name trigger : String) : WorkflowDefinition := ⟨name, trigger, none, [], false⟩

def withCondition (w : WorkflowDefinition) (condition : String) : WorkflowDefinition :=
  { w with condition := some condition }

def withAction (w : WorkflowDefinition) (action : ActionSpec) : WorkflowDefinition :=
  { w with actions := w.actions ++ [action] }

def detached (w : WorkflowDefinition) : WorkflowDefinition := { w with isDetached := true }

def toValue (w : WorkflowDefinition) : Value :=
  .ofFields ([("name", .text w.name), ("trigger", .text w.trigger),
    ("actions", .list (w.actions.map ActionSpec.toValue)), ("async", .bool w.isDetached)]
    ++ Entries.optional "condition" (w.condition.map .text))

def read? (d : Document) : Option WorkflowDefinition := do
  let r ← Record.read? ["name", "trigger", "condition", "actions", "async"] d
  let name ← r.required "name" Document.text?
  let trigger ← r.required "trigger" Document.text?
  let condition ← r.nullable "condition" Document.text?
  let actions ← r.withDefault "actions" [] (Document.list? ActionSpec.read?)
  let isDetached ← r.withDefault "async" false Document.bool?
  some ⟨name, trigger, condition, actions, isDetached⟩

end WorkflowDefinition

structure Workflow where
  definition : WorkflowDefinition
  actions : List Action
  deriving Inhabited

namespace Workflow

def ofDefinition (d : WorkflowDefinition) : Workflow := ⟨d, d.actions.map Action.ofSpec⟩

def name (w : Workflow) : String := w.definition.name

def condition (w : Workflow) : Option String := w.definition.condition

def isDetached (w : Workflow) : Bool := w.definition.isDetached

/-- The actions that a run performs. -/
def recognized (w : Workflow) : List Action := w.actions.filter Action.isRecognized

end Workflow

/-- The installed workflows, by trigger and in the order of their declaration. -/
structure WorkflowIndex where
  version : Nat
  byTrigger : Table (List Workflow)
  size : Nat
  deriving Inhabited

namespace WorkflowIndex

def empty : WorkflowIndex := ⟨0, .empty, 0⟩

/-- Add a workflow after the others of its trigger. -/
def enter (groups : Table (List Workflow)) (d : WorkflowDefinition) : Table (List Workflow) :=
  groups.update d.trigger fun group => group.getD [] ++ [Workflow.ofDefinition d]

def build (version : Nat) (definitions : List WorkflowDefinition) : WorkflowIndex :=
  ⟨version, definitions.foldl enter .empty, definitions.length⟩

/-- The workflows of a trigger. -/
def matching (index : WorkflowIndex) (trigger : String) : List Workflow :=
  (index.byTrigger.find? trigger).getD []

def triggerCount (index : WorkflowIndex) : Nat := index.byTrigger.size

end WorkflowIndex

end RecordGate
