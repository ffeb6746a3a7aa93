import RecordGate.Manifest.Basic
import RecordGate.Workflow.Check

/-!
# Checking manifests

All problems of a manifest are reported together, each under the place it concerns: a rule under its
entity and action, an issue of a workflow under the position of the first workflow of that name.
`LoadError` lists all that can keep a manifest or the engine from being loaded.
-/

namespace RecordGate

/-- Places with the problems found there, in the order they were found. -/
abbrev Problems := Table (List String)

namespace Problems

def add (problems : Problems) (place problem : String) : Problems :=
  problems.update place fun found => found.getD [] ++ [problem]

/-- Problems entered one by one. -/
def ofList (found : List (String × String)) : Problems :=
  found.foldl (fun problems p => problems.add p.1 p.2) .empty

/-- How many problems there are at all places together. -/
def count (problems : Problems) : Nat := (problems.entries.flatMap fun e => e.2).length

def toValue (problems : Problems) : Value :=
  .ofTable (problems.map fun _ found => .list (found.map .text))

end Problems

inductive LoadError where
  | malformed
  | unreadable
  | invalid (problems : Problems)
  | mailer
  deriving Inhabited

namespace LoadError

def code : LoadError → String
  | malformed => "MANIFEST_PARSE_ERROR"
  | unreadable => "MANIFEST_IO_ERROR"
  | invalid _ => "VALIDATION_ERROR"
  | mailer => "MAILER_ERROR"

/-- The message of an invalid manifest; the other errors have no text of their own. -/
def message? : LoadError → Option String
  | invalid problems =>
    some ("Manifest failed validation with " ++ toString problems.count ++ " issue(s)")
  | _ => none

def problems? : LoadError → Option Problems
  | invalid problems => some problems
  | _ => none

end LoadError

/-- No problem is no error. -/
def Problems.result (problems : Problems) : Except LoadError Unit :=
  if problems.isEmpty then .ok () else .error (.invalid problems)

namespace Manifest

/-- The position of the first workflow of a name. -/
def position? (m : Manifest) (name : String) : Option Nat :=
  m.workflows.findIdx? fun w => w.name == name

/-- The position that an issue is reported at. -/
def issuePosition? (m : Manifest) : WorkflowIssue → Option Nat
  | .missingName position => some position
  | .emptyTrigger workflow => m.position? workflow
  | .condition workflow _ => m.position? workflow
  | .template workflow _ _ => m.position? workflow

def workflowPlace : Option Nat → String
  | some position => "workflows[" ++ toString position ++ "]"
  | none => "workflows"

def rulePlace (entity action : String) : String :=
  "entities." ++ entity ++ ".permissions." ++ action

/-- The problems in the rules of one entity. -/
def ruleProblems (entity : String) (policy : EntityPolicy) : List (String × String) :=
  (RuleSet.issues policy.permissions).map fun i => (rulePlace entity i.action, i.error.message)

/-- All problems with their places: those of the rules first, then those of the workflows. -/
def found (m : Manifest) : List (String × String) :=
  (m.entities.entries.flatMap fun (entity, policy) => ruleProblems entity policy)
    ++ (WorkflowDefinition.issues m.workflows).map fun i =>
      (workflowPlace (m.issuePosition? i), i.message)

def problems (m : Manifest) : Problems := .ofList m.found

/-- A manifest is accepted when it has no problem. -/
def check (m : Manifest) : Except LoadError Unit := m.problems.result

end Manifest

end RecordGate
