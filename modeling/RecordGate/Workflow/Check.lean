import RecordGate.Workflow.Definition
import RecordGate.Template.Check
import RecordGate.Expression.Basic

/-!
# Checking workflows

Before workflows are installed, their names and triggers must not be blank, their conditions have to
parse and the templates in their parameters have to be well formed.  An unrecognized action is no issue.
-/

namespace RecordGate

inductive WorkflowIssue where
  | missingName (position : Nat)
  | emptyTrigger (workflow : String)
  | condition (workflow : String) (error : Expression.SyntaxError)
  | template (workflow : String) (action : Nat) (finding : Template.Finding)
  deriving DecidableEq

namespace WorkflowIssue

def message : WorkflowIssue → String
  | missingName position => "workflow at position " ++ toString position ++ " has no name"
  | emptyTrigger workflow => "workflow '" ++ workflow ++ "' has an empty trigger"
  | condition workflow error => "workflow '" ++ workflow ++ "' condition: " ++ error.message
  | template workflow action finding =>
    "workflow '" ++ workflow ++ "' action " ++ toString action ++ " " ++ finding.location ++ ": "
      ++ finding.issue.message

end WorkflowIssue

namespace WorkflowDefinition

/-- The error in a condition, if there is a condition and an error in it. -/
def conditionError? (w : WorkflowDefinition) : Option Expression.SyntaxError :=
  match w.condition.map Expression.parse with
  | some (.error e) => some e
  | _ => none

/-- The template issues of the action at a place. -/
def actionIssues (w : WorkflowDefinition) (index : Nat) (spec : ActionSpec) : List WorkflowIssue :=
  match (Action.ofSpec spec).params? with
  | some params => (Template.findings params).map (.template w.name index)
  | none => []

/-- The template issues of the actions from a place on. -/
def actionsIssues (w : WorkflowDefinition) (index : Nat) : List ActionSpec → List WorkflowIssue
  | [] => []
  | spec :: rest => w.actionIssues index spec ++ w.actionsIssues (index + 1) rest

/-- All issues of the workflow at a position. -/
def issuesAt (w : WorkflowDefinition) (position : Nat) : List WorkflowIssue :=
  (if Text.allBlank w.name then [.missingName position] else [])
    ++ (if Text.allBlank w.trigger then [.emptyTrigger w.name] else [])
    ++ (w.conditionError?.map (.condition w.name)).toList
    ++ w.actionsIssues 0 w.actions

/-- The issues of a list of workflows whose first one is at a position. -/
def issuesFrom (position : Nat) : List WorkflowDefinition → List WorkflowIssue
  | [] => []
  | w :: rest => w.issuesAt position ++ issuesFrom (position + 1) rest

/-- The issues of a list of workflows. -/
def issues (workflows : List WorkflowDefinition) : List WorkflowIssue := issuesFrom 0 workflows

end WorkflowDefinition

end RecordGate
