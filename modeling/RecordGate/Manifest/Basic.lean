import RecordGate.Permission.Rules
import RecordGate.Workflow.Definition
import RecordGate.Document.Reader

/-!
# Manifests

A manifest declares everything at once: the rules of each entity, and the workflows.
-/

namespace RecordGate

/-- What a manifest declares of one entity. -/
structure EntityPolicy where
  permissions : RuleSet
  deriving Inhabited

namespace EntityPolicy

def toValue (p : EntityPolicy) : Value := .ofFields [("permissions", RuleSet.toValue p.permissions)]

def read? (d : Document) : Option EntityPolicy := do
  let r ← Record.read? ["permissions"] d
  let permissions ← r.withDefault "permissions" .empty RuleSet.read?
  some ⟨permissions⟩

end EntityPolicy

structure Manifest where
  entities : Table EntityPolicy
  workflows : List WorkflowDefinition
  deriving Inhabited

namespace Manifest

def toValue (m : Manifest) : Value :=
  .ofFields [("entities", .ofTable (m.entities.map fun _ policy => policy.toValue)),
    ("workflows", .list (m.workflows.map WorkflowDefinition.toValue))]

def read? (d : Document) : Option Manifest := do
  let r ← Record.read? ["entities", "workflows"] d
  let entities ← r.withDefault "entities" .empty (Document.table? EntityPolicy.read?)
  let workflows ← r.withDefault "workflows" [] (Document.list? WorkflowDefinition.read?)
  some ⟨entities, workflows⟩

/-- The manifest that a text writes. -/
def ofText? (text : String) : Option Manifest := (Document.read? text).bind read?

end Manifest

end RecordGate
