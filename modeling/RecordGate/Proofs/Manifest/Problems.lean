import RecordGate.Manifest.Check

/-!
# The problems of a manifest

Entering problems one by one loses none: under each place stand the problems that were found there, in the
order they were found (`getD_find?_ofList`).  So a manifest is accepted exactly when all its rules and its
workflows are without issues (`check_eq_ok_iff`).
-/

namespace RecordGate

namespace Problems

theorem getD_find?_ofList (found : List (String × String)) (place : String) :
    ((ofList found).find? place).getD [] = (found.filter (·.1 = place)).map Prod.snd :=
  Table.getD_find?_foldl_update Prod.fst Prod.snd found .empty place

theorem isEmpty_ofList_iff {found : List (String × String)} :
    (ofList found).isEmpty = true ↔ found = [] := by
  constructor
  · intro h
    cases found with
    | nil => rfl
    | cons p rest =>
      have hheld := getD_find?_ofList (p :: rest) p.1
      have hnone : (ofList (p :: rest)).find? p.1 = none := by
        rw [Table.find?, List.isEmpty_iff.1 h]
        rfl
      rw [hnone, List.filter_cons_of_pos (by simp)] at hheld
      cases hheld
  · rintro rfl
    rfl

end Problems

/-! ### Accepted manifests -/

namespace RuleSet

theorem error?_eq_none_iff {rule : String} :
    error? rule = none ↔ ∃ e, Expression.parse rule = .ok e := by
  unfold error?
  cases Expression.parse rule with
  | ok e => simp
  | error e => simp

theorem issues_eq_nil_iff {rules : RuleSet} :
    issues rules = [] ↔ ∀ entry ∈ rules.entries, ∃ e, Expression.parse entry.2 = .ok e := by
  rw [issues, List.filterMap_eq_nil_iff]
  constructor
  · intro h entry hmem
    exact error?_eq_none_iff.1 (Option.map_eq_none_iff.1 (h entry hmem))
  · intro h entry hmem
    exact Option.map_eq_none_iff.2 (error?_eq_none_iff.2 (h entry hmem))

end RuleSet

namespace Manifest

theorem found_eq (m : Manifest) :
    m.found =
      (m.entities.entries.flatMap fun e => ruleProblems e.1 e.2) ++
        (WorkflowDefinition.issues m.workflows).map fun i =>
          (workflowPlace (m.issuePosition? i), i.message) := rfl

theorem found_eq_nil_iff {m : Manifest} :
    m.found = [] ↔
      (∀ entry ∈ m.entities.entries, RuleSet.issues entry.2.permissions = []) ∧
        WorkflowDefinition.issues m.workflows = [] := by
  simp only [found_eq, ruleProblems, List.append_eq_nil_iff, List.flatMap_eq_nil_iff, List.map_eq_nil_iff]

theorem check_eq_ok_iff_found {m : Manifest} : m.check = .ok () ↔ m.found = [] := by
  rw [← Problems.isEmpty_ofList_iff, check, Problems.result, problems]
  split
  next h => simp [h]
  next h => simp [h]

theorem check_of_found_ne_nil {m : Manifest} (h : m.found ≠ []) : m.check = .error (.invalid m.problems) := by
  rw [check, Problems.result, if_neg]
  rwa [problems, Problems.isEmpty_ofList_iff]

/-- **A manifest is accepted exactly when nothing in it has an issue**: each rule parses, and the workflows
are without issues. -/
theorem check_eq_ok_iff {m : Manifest} :
    m.check = .ok () ↔
      (∀ entry ∈ m.entities.entries, ∀ rule ∈ entry.2.permissions.entries,
        ∃ e, Expression.parse rule.2 = .ok e) ∧ WorkflowDefinition.issues m.workflows = [] := by
  rw [check_eq_ok_iff_found, found_eq_nil_iff]
  simp only [RuleSet.issues_eq_nil_iff]

end Manifest

end RecordGate
