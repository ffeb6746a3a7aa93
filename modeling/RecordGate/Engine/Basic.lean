import RecordGate.Manifest.Check
import RecordGate.Permission.Gate
import RecordGate.Workflow.Run

/-!
# The engine

An engine holds what has been installed: the rules of every entity, the workflows by trigger, and the
listeners.  A manifest is installed whole or not at all, under a version greater than any before; a
reload replaces the workflows alone.  Listeners are kept by names of the host's choosing, of type `ι`,
and survive every installation.
-/

namespace RecordGate

/-- The rules in force and the version of the manifest that brought them. -/
structure Registry where
  version : Nat
  entities : Table RuleSet
  deriving Inhabited

structure Engine (ι : Type) where
  missing : MissingRule
  evaluator : Evaluator
  registry : Registry
  index : WorkflowIndex
  listeners : Table (List ι)
  deriving Inhabited

namespace Engine

variable {ι : Type}

/-- An engine in which nothing is installed. -/
def fresh (missing : MissingRule) (capacity : Nat) : Engine ι :=
  ⟨missing, .ofCapacity capacity, ⟨0, .empty⟩, .empty, .empty⟩

/-! ### Installing -/

/-- The version of the next manifest. -/
def nextVersion (e : Engine ι) : Nat := max e.registry.version e.index.version + 1

/-- Install a manifest without checking it. -/
def install (e : Engine ι) (m : Manifest) : Engine ι :=
  { e with
    registry := ⟨e.nextVersion, m.entities.map fun _ policy => policy.permissions⟩
    index := .build e.nextVersion m.workflows }

/-- Check a manifest and install it; the version it got. -/
def apply (e : Engine ι) (m : Manifest) : Except LoadError Nat × Engine ι :=
  match m.check with
  | .error problem => (.error problem, e)
  | .ok () => (.ok e.nextVersion, e.install m)

/-- Replace the workflows alone; the version they got. -/
def reload (e : Engine ι) (workflows : List WorkflowDefinition) : Nat × Engine ι :=
  let version := e.index.version + 1
  (version, { e with index := .build version workflows })

/-- Add a listener after the others of its trigger. -/
def listen (e : Engine ι) (trigger : String) (listener : ι) : Engine ι :=
  { e with listeners := e.listeners.update trigger fun group => group.getD [] ++ [listener] }

/-! ### Asking -/

/-- The rules of an entity; it has none when nothing is declared of it. -/
def rules (e : Engine ι) (entity : String) : RuleSet := (e.registry.entities.find? entity).getD .empty

/-- The listeners of a trigger. -/
def listenersOf (e : Engine ι) (trigger : String) : List ι := (e.listeners.find? trigger).getD []

/-- Ask a question of the engine's evaluator. -/
def ask {α : Type} (question : Permission.Asking α) (e : Engine ι) : α × Engine ι :=
  let (answer, evaluator) := question e.evaluator
  (answer, { e with evaluator := evaluator })

/-- Whether a caller may perform an action on a record. -/
def check (e : Engine ι) (entity : String) (caller : Caller) (snapshot : Option Snapshot)
    (action : String) : Bool × Engine ι :=
  e.ask (Permission.check e.missing (e.rules entity) caller snapshot action)

/-- The records on which a caller may perform an action. -/
def permitted (e : Engine ι) (entity : String) (caller : Caller) (records : List Snapshot)
    (action : String) : List Snapshot × Engine ι :=
  e.ask (Permission.permitted e.missing (e.rules entity) caller records action)

/-- The actions that a caller may perform on a record. -/
def allowedActions (e : Engine ι) (entity : String) (caller : Caller) (snapshot : Option Snapshot) :
    List String × Engine ι :=
  e.ask (Permission.allowedActions e.missing (e.rules entity) caller snapshot)

end Engine

end RecordGate
