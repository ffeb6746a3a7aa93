import RecordGate.Proofs.Manifest.Problems
import RecordGate.Proofs.Workflow.Checked

/-!
# Where problems are reported

An issue of a workflow carries the name of the workflow, not its position, unless it is that there is no name.
So what is found in the workflows of one name is reported together, at the first of them; under every
other position stands at most that the name is missing there.  Where the name of a workflow is its own,
its position holds its own issues and no others.

Main statement: `reportedAt_eq`.
-/

namespace RecordGate

/-! ### The issues of a list -/

namespace WorkflowDefinition

/-- The issue that carries the position. -/
def nameIssues (w : WorkflowDefinition) (position : Nat) : List WorkflowIssue :=
  if Text.allBlank w.name then [.missingName position] else []

/-- The issues that carry the name. -/
def namedIssues (w : WorkflowDefinition) : List WorkflowIssue :=
  (if Text.allBlank w.trigger then [.emptyTrigger w.name] else [])
    ++ (w.conditionError?.map (.condition w.name)).toList
    ++ w.actionsIssues 0 w.actions

theorem issuesAt_eq (w : WorkflowDefinition) (position : Nat) :
    w.issuesAt position = w.nameIssues position ++ w.namedIssues := by
  simp [issuesAt, nameIssues, namedIssues]

theorem mem_actionsIssues {w : WorkflowDefinition} {index : Nat} {specs : List ActionSpec}
    {issue : WorkflowIssue} (h : issue ∈ w.actionsIssues index specs) :
    ∃ action finding, issue = .template w.name action finding := by
  induction specs generalizing index with
  | nil => cases h
  | cons spec rest ih =>
    rcases List.mem_append.1 h with h | h
    · unfold actionIssues at h
      split at h
      next params _ =>
        obtain ⟨finding, -, rfl⟩ := List.mem_map.1 h
        exact ⟨index, finding, rfl⟩
      next => cases h
    · exact ih h

end WorkflowDefinition

namespace Manifest

/-! ### Places -/

theorem workflowPlace_injective : Function.Injective workflowPlace := by
  intro p q h
  have hchars := congrArg String.toList h
  cases p with
  | none =>
    cases q with
    | none => rfl
    | some j => simp [workflowPlace] at hchars
  | some i =>
    cases q with
    | none => simp [workflowPlace] at hchars
    | some j =>
      have hdigits : Nat.toDigits 10 i = Nat.toDigits 10 j := by
        simpa [workflowPlace] using hchars
      have hread := congrArg (Nat.ofDigitChars 10 · 0) hdigits
      simpa [Nat.ofDigitChars_toDigits] using hread

theorem rulePlace_ne_workflowPlace (entity action : String) (p : Option Nat) :
    rulePlace entity action ≠ workflowPlace p := by
  intro h
  have hchars := congrArg String.toList h
  cases p with
  | none => simp [workflowPlace, rulePlace] at hchars
  | some i => simp [workflowPlace, rulePlace] at hchars

theorem exists_of_position? {m : Manifest} {name : String} {i : Nat} (h : m.position? name = some i) :
    ∃ w, m.workflows[i]? = some w ∧ w.name = name := by
  rw [position?, List.findIdx?_eq_some_iff_getElem] at h
  obtain ⟨hi, hname, -⟩ := h
  exact ⟨m.workflows[i], List.getElem?_eq_getElem hi, by simpa using hname⟩

theorem exists_position? {m : Manifest} {j : Nat} {v : WorkflowDefinition}
    (h : m.workflows[j]? = some v) : ∃ i, m.position? v.name = some i := by
  rw [← Option.isSome_iff_exists, position?, List.findIdx?_isSome, List.any_eq_true]
  exact ⟨v, List.mem_of_getElem? h, by simp⟩

theorem issuePosition?_of_mem_namedIssues {m : Manifest} {w : WorkflowDefinition} {issue : WorkflowIssue}
    (h : issue ∈ w.namedIssues) : m.issuePosition? issue = m.position? w.name := by
  simp only [WorkflowDefinition.namedIssues, List.mem_append] at h
  rcases h with (h | h) | h
  · split at h
    next => rw [List.mem_singleton.1 h]; rfl
    next => cases h
  · obtain ⟨error, -, rfl⟩ := Option.map_eq_some_iff.1 (Option.mem_toList.1 h)
    rfl
  · obtain ⟨action, finding, rfl⟩ := WorkflowDefinition.mem_actionsIssues h
    rfl

/-! ### Reports -/

/-- What is reported under the position of a workflow. -/
def reportedAt (m : Manifest) (position : Nat) : List String :=
  (m.problems.find? (workflowPlace (some position))).getD []

/-- What the workflow at a position has to do with what is reported under another: its missing name, if the
positions are the same, and all its other issues, if the other is the first position of its name. -/
def contribution (m : Manifest) (position : Nat) (e : WorkflowDefinition × Nat) : List WorkflowIssue :=
  (if e.2 = position then e.1.nameIssues e.2 else []) ++
    (if m.position? e.1.name = some position then e.1.namedIssues else [])

theorem filter_issuesAt (m : Manifest) (position : Nat) (e : WorkflowDefinition × Nat) :
    (e.1.issuesAt e.2).filter (m.issuePosition? · = some position) = m.contribution position e := by
  rw [WorkflowDefinition.issuesAt_eq, List.filter_append, contribution]
  congr 1
  · unfold WorkflowDefinition.nameIssues
    split
    next => by_cases h : e.2 = position <;> simp [issuePosition?, h]
    next => simp
  · by_cases h : m.position? e.1.name = some position
    · rw [if_pos h, List.filter_eq_self]
      intro issue hissue
      rw [issuePosition?_of_mem_namedIssues hissue, h, decide_eq_true_iff]
    · rw [if_neg h, List.filter_eq_nil_iff]
      intro issue hissue
      rwa [issuePosition?_of_mem_namedIssues hissue, decide_eq_true_iff]

theorem reportedAt_eq_flatMap (m : Manifest) (position : Nat) :
    m.reportedAt position = (m.workflows.zipIdx.flatMap (m.contribution position)).map
      WorkflowIssue.message := by
  have hrules : (m.entities.entries.flatMap fun e => ruleProblems e.1 e.2).filter
      (·.1 = workflowPlace (some position)) = [] := by
    rw [List.filter_eq_nil_iff]
    intro p hp
    obtain ⟨e, -, hp⟩ := List.mem_flatMap.1 hp
    obtain ⟨i, -, rfl⟩ := List.mem_map.1 hp
    simpa using rulePlace_ne_workflowPlace _ _ _
  have hplace (issue : WorkflowIssue) :
      (workflowPlace (m.issuePosition? issue) = workflowPlace (some position)) ↔
        m.issuePosition? issue = some position := workflowPlace_injective.eq_iff
  rw [reportedAt, problems, Problems.getD_find?_ofList, found_eq, List.filter_append, hrules,
    List.nil_append, List.filter_map, List.map_map]
  simp only [Function.comp_def, hplace, WorkflowDefinition.issues, WorkflowDefinition.issuesFrom_eq,
    List.filter_flatMap, filter_issuesAt]

theorem flatMap_zipIdx_of_getElem? {α β : Type} {f : α × Nat → List β} {bs : List β} {i : Nat} {a : α}
    {as : List α} (ha : as[i]? = some a) (start : Nat)
    (hf : ∀ e ∈ as.zipIdx start, f e = if e.2 = start + i then bs else []) :
    (as.zipIdx start).flatMap f = bs := by
  induction as generalizing start i with
  | nil => simp at ha
  | cons first rest ih =>
    rw [List.zipIdx_cons, List.flatMap_cons, hf _ (by simp)]
    cases i with
    | zero =>
      have hrest : (rest.zipIdx (start + 1)).flatMap f = [] := by
        rw [List.flatMap_eq_nil_iff]
        intro e he
        have hle : start + 1 ≤ e.2 := List.le_snd_of_mem_zipIdx he
        rw [hf e (by simp [List.zipIdx_cons, he]), if_neg (by omega)]
      simp [hrest]
    | succ i =>
      have hfirst : ¬ start = start + (i + 1) := by omega
      rw [if_neg hfirst, List.nil_append]
      refine ih (by simpa using ha) (start + 1) ?_
      intro e he
      rw [hf e (by simp [List.zipIdx_cons, he])]
      congr 1
      rw [Nat.add_assoc, Nat.add_comm 1 i]

/-- **Where the issues of workflows are reported.**  Under each position stand the name that is missing there
and the other issues of all workflows whose name is first declared there, in the order of the list.  So a
position of which the name is declared earlier holds no more than the missing name, and the position of a
workflow whose name is its own holds its issues and nothing else. -/
theorem reportedAt_eq (m : Manifest) (position : Nat) :
    m.reportedAt position =
        (m.workflows.zipIdx.flatMap (m.contribution position)).map WorkflowIssue.message ∧
      ∀ w, m.workflows[position]? = some w →
        (m.position? w.name ≠ some position →
          m.reportedAt position = (w.nameIssues position).map WorkflowIssue.message) ∧
        ((∀ i v, m.workflows[i]? = some v → v.name = w.name → i = position) →
          m.reportedAt position = (w.issuesAt position).map WorkflowIssue.message) := by
  refine ⟨m.reportedAt_eq_flatMap position, ?_⟩
  intro w hw
  rw [reportedAt_eq_flatMap]
  -- a name that is first declared at the position is the name of the workflow there
  have hname {v : WorkflowDefinition} (hv : m.position? v.name = some position) : v.name = w.name := by
    obtain ⟨w', hw', hname⟩ := exists_of_position? hv
    obtain rfl : w = w' := Option.some.inj (hw.symm.trans hw')
    exact hname.symm
  have hhere {e : WorkflowDefinition × Nat} (he : e ∈ m.workflows.zipIdx) (hposition : e.2 = position) :
      e.1 = w := by
    rw [List.mem_zipIdx_iff_getElem?, hposition, hw] at he
    exact (Option.some.inj he).symm
  constructor
  · intro hearlier
    rw [flatMap_zipIdx_of_getElem? hw 0]
    intro e he
    have hother : m.position? e.1.name ≠ some position := by
      intro hv
      exact hearlier (hname hv ▸ hv)
    rw [contribution, if_neg hother, List.append_nil, Nat.zero_add]
    by_cases hposition : e.2 = position
    · rw [if_pos hposition, if_pos hposition, hhere he hposition, hposition]
    · rw [if_neg hposition, if_neg hposition]
  · intro hunique
    rw [flatMap_zipIdx_of_getElem? hw 0]
    intro e he
    rw [contribution, Nat.zero_add]
    by_cases hposition : e.2 = position
    · have hfirst : m.position? w.name = some position := by
        obtain ⟨i, hi⟩ := exists_position? hw
        obtain ⟨v, hv, hvname⟩ := exists_of_position? hi
        rw [hi, hunique i v hv hvname]
      rw [if_pos hposition, if_pos hposition, hhere he hposition, if_pos hfirst, hposition,
        WorkflowDefinition.issuesAt_eq]
    · have hother : m.position? e.1.name ≠ some position := by
        intro hv
        exact hposition (hunique e.2 e.1 (List.mem_zipIdx_iff_getElem?.1 he) (hname hv))
      rw [if_neg hposition, if_neg hposition, if_neg hother, List.append_nil]

/-- A manifest with a repeated name and a name that is its own. -/
def repeated : Manifest :=
  ⟨.empty, [.ofTrigger "notify" "saved",
    (WorkflowDefinition.ofTrigger "notify" "saved").withCondition "a ==", .ofTrigger "audit" " "]⟩

/-- Nothing stands under the position of the second workflow, whose name is declared before; the issue of the
third stands under its own. -/
theorem reportedAt_eq_repeated :
    repeated.reportedAt 1 = [] ∧ repeated.reportedAt 2 = ["workflow 'audit' has an empty trigger"] := by
  constructor
  · obtain ⟨-, hworkflow⟩ := reportedAt_eq repeated 1
    exact (hworkflow _ rfl).1 (by decide +kernel)
  · obtain ⟨-, hworkflow⟩ := reportedAt_eq repeated 2
    refine (hworkflow (.ofTrigger "audit" " ") rfl).2 ?_
    intro i v hv hname
    match i with
    | 0 =>
      obtain rfl := Option.some.inj hv
      exact absurd hname (by decide)
    | 1 =>
      obtain rfl := Option.some.inj hv
      exact absurd hname (by decide)
    | 2 => rfl
    | i + 3 => cases hv

/-- Of two workflows of one name, the error in the condition of the second is not reported under its position
but under that of the first, which has no issues. -/
theorem not_reportedAt_of_repeated_name :
    ∃ (m : Manifest) (v w : WorkflowDefinition), m.workflows = [v, w] ∧ v.name = w.name ∧
      (∃ issue ∈ w.issuesAt 1, issue.message ∉ m.reportedAt 1) ∧
      ∃ text ∈ m.reportedAt 0, ∀ issue ∈ v.issuesAt 0, text ≠ issue.message := by
  refine ⟨⟨.empty, [.ofTrigger "notify" "task.created",
    (WorkflowDefinition.ofTrigger "notify" "task.created").withCondition "a =="]⟩, _, _, rfl, rfl,
    ⟨.condition "notify" .unexpectedEnd, ?_, ?_⟩,
    "workflow 'notify' condition: unexpected end of expression", ?_, ?_⟩
  all_goals decide +kernel

end Manifest

end RecordGate
