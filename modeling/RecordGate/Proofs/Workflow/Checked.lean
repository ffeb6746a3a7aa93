import RecordGate.Workflow.Check
import RecordGate.Proofs.Template.Texts

/-!
# Checked workflows

A list of workflows has no issues exactly when each of them is `Checked`: it has a name and a trigger, its
condition parses, and the texts in the parameters of its actions are templates without issues.

Main statement: `issues_eq_nil_iff`.
-/

namespace RecordGate

/-- The templates of an action: the texts in its declared parameters. -/
def Action.texts (a : Action) : List String := (a.params?.map Value.texts).getD []

namespace WorkflowDefinition

/-- What the check of workflows makes sure of. -/
structure Checked (w : WorkflowDefinition) : Prop where
  name : Text.allBlank w.name = false
  trigger : Text.allBlank w.trigger = false
  condition : ∀ rule, w.condition = some rule → ∃ e, Expression.parse rule = .ok e
  templates : ∀ spec ∈ w.actions, ∀ template ∈ (Action.ofSpec spec).texts, Template.issues template = []

variable {w : WorkflowDefinition}

theorem conditionError?_eq_none_iff :
    w.conditionError? = none ↔ ∀ rule, w.condition = some rule → ∃ e, Expression.parse rule = .ok e := by
  unfold conditionError?
  cases w.condition with
  | none => simp
  | some rule =>
    cases hparse : Expression.parse rule with
    | ok e => simp [hparse]
    | error e => simp [hparse]

theorem actionIssues_eq_nil_iff {index : Nat} {spec : ActionSpec} :
    w.actionIssues index spec = [] ↔
      ∀ template ∈ (Action.ofSpec spec).texts, Template.issues template = [] := by
  unfold actionIssues Action.texts
  cases (Action.ofSpec spec).params? with
  | none => simp
  | some params => simp [Template.findings_eq_nil_iff]

theorem actionsIssues_eq_nil_iff {index : Nat} {specs : List ActionSpec} :
    w.actionsIssues index specs = [] ↔
      ∀ spec ∈ specs, ∀ template ∈ (Action.ofSpec spec).texts, Template.issues template = [] := by
  induction specs generalizing index with
  | nil => simp [actionsIssues]
  | cons spec rest ih =>
    rw [actionsIssues, List.append_eq_nil_iff, actionIssues_eq_nil_iff, ih, List.forall_mem_cons]

theorem issuesAt_eq_nil_iff {position : Nat} : w.issuesAt position = [] ↔ w.Checked := by
  have hname : (if Text.allBlank w.name then [WorkflowIssue.missingName position] else []) = [] ↔
      Text.allBlank w.name = false := by simp
  have htrigger : (if Text.allBlank w.trigger then [WorkflowIssue.emptyTrigger w.name] else []) = [] ↔
      Text.allBlank w.trigger = false := by simp
  have hcondition : (w.conditionError?.map (WorkflowIssue.condition w.name)).toList = [] ↔
      w.conditionError? = none := by simp
  rw [issuesAt, List.append_eq_nil_iff, List.append_eq_nil_iff, List.append_eq_nil_iff, hname, htrigger,
    hcondition, conditionError?_eq_none_iff, actionsIssues_eq_nil_iff]
  constructor
  · rintro ⟨⟨⟨hname, htrigger⟩, hcondition⟩, htemplates⟩
    exact ⟨hname, htrigger, hcondition, htemplates⟩
  · rintro ⟨hname, htrigger, hcondition, htemplates⟩
    exact ⟨⟨⟨hname, htrigger⟩, hcondition⟩, htemplates⟩

theorem issuesFrom_eq (position : Nat) (ws : List WorkflowDefinition) :
    issuesFrom position ws = (ws.zipIdx position).flatMap fun e => e.1.issuesAt e.2 := by
  induction ws generalizing position with
  | nil => rfl
  | cons w rest ih => rw [issuesFrom, ih, List.zipIdx_cons, List.flatMap_cons]

/-- **Workflows without issues are checked**, each of them. -/
theorem issues_eq_nil_iff {ws : List WorkflowDefinition} : issues ws = [] ↔ ∀ w ∈ ws, w.Checked := by
  rw [issues, issuesFrom_eq, List.flatMap_eq_nil_iff]
  constructor
  · intro h w hw
    obtain ⟨i, hi⟩ := List.mem_iff_getElem?.1 hw
    exact issuesAt_eq_nil_iff.1 (h (w, i) (List.mem_zipIdx_iff_getElem?.2 hi))
  · intro h e he
    exact issuesAt_eq_nil_iff.2 (h e.1 (List.mem_of_getElem? (List.mem_zipIdx_iff_getElem?.1 he)))

end WorkflowDefinition

end RecordGate
