import Mathlib.Algebra.BigOperators.Group.Finset.Basic
import RecordGate.Workflow.Definition

/-!
# The index of workflows

Building the index puts every definition behind the others of its trigger, so that what is found under a
trigger is what was declared with it, in the order of declaration.  A definition has one trigger, so that the
groups are apart and together as long as the list.  A workflow has an action in the place of each one that its
definition declares, of the kind that is named there, or holding what is declared if no kind is known.

The lookup of a trigger is followed through the insertions from any start (`WorkflowIndex.find?_foldl_enter`), which
gives the group of a trigger as a filter of the definitions.  The sum over the groups is a sum of counts, where each
definition is counted at its own trigger.

Main statements: `matching_build_eq`, `groups_build`.
-/

namespace RecordGate

/-! ### Resolved actions -/

/-- The kind that a specification names. -/
def ActionSpec.named? : ActionSpec → Option String
  | tag name => some name
  | typed kind _ => some kind
  | other _ => none

/-- An action is of the kind that its specification names, or holds the specification as it was declared. -/
inductive ActionSpec.ResolvesTo (spec : ActionSpec) : Action → Prop where
  | recognized {action : Action} (hrecognized : action.isRecognized = true)
      (hkind : spec.named? = some action.kind) : ResolvesTo spec action
  | unrecognized : ResolvesTo spec (.unrecognized spec.toValue)

namespace Action

variable {name : String} {params : Value} {action : Action}

theorem kind_of_ofTag? (h : ofTag? name = some action) : action.isRecognized = true ∧ name = action.kind := by
  unfold ofTag? at h
  split at h
  next => cases h; exact ⟨rfl, rfl⟩
  next => cases h; exact ⟨rfl, rfl⟩
  next => cases h; exact ⟨rfl, rfl⟩
  next => cases h; exact ⟨rfl, rfl⟩
  next => cases h

theorem kind_of_ofKind? (h : ofKind? name params = some action) :
    action.isRecognized = true ∧ name = action.kind := by
  unfold ofKind? at h
  split at h
  next => cases h; exact ⟨rfl, rfl⟩
  next => cases h; exact ⟨rfl, rfl⟩
  next => cases h; exact ⟨rfl, rfl⟩
  next => cases h; exact ⟨rfl, rfl⟩
  next => exact kind_of_ofTag? h

/-- **Resolving an action keeps its kind or all of it.** -/
theorem resolvesTo_ofSpec (spec : ActionSpec) : spec.ResolvesTo (ofSpec spec) := by
  cases spec with
  | tag name =>
    rw [ofSpec]
    cases h : ofTag? name with
    | none => exact .unrecognized
    | some action =>
      obtain ⟨hrecognized, hkind⟩ := kind_of_ofTag? h
      exact .recognized hrecognized (congrArg some hkind)
  | typed kind params =>
    rw [ofSpec]
    cases h : ofKind? kind params with
    | none => exact .unrecognized
    | some action =>
      obtain ⟨hrecognized, hkind⟩ := kind_of_ofKind? h
      exact .recognized hrecognized (congrArg some hkind)
  | other raw => exact .unrecognized

end Action

namespace WorkflowIndex

/-! ### The workflows of a trigger -/

theorem find?_foldl_enter (definitions : List WorkflowDefinition) (groups : Table (List Workflow))
    (trigger : String) :
    ((definitions.foldl enter groups).find? trigger).getD [] =
      (groups.find? trigger).getD [] ++
        (definitions.filter (·.trigger = trigger)).map Workflow.ofDefinition :=
  Table.getD_find?_foldl_update WorkflowDefinition.trigger Workflow.ofDefinition definitions groups trigger

/-- **The index of a list finds under a trigger what the list declares with it.** -/
theorem matching_build_eq (version : Nat) (definitions : List WorkflowDefinition) (trigger : String) :
    (build version definitions).matching trigger =
      (definitions.filter (·.trigger = trigger)).map Workflow.ofDefinition := by
  rw [matching, build, find?_foldl_enter]
  simp

/-! ### The triggers of a list -/

/-- The triggers that a list of workflows mentions, each once. -/
def triggers (definitions : List WorkflowDefinition) : Finset String :=
  (definitions.map (·.trigger)).toFinset

theorem length_matching_build (version : Nat) (definitions : List WorkflowDefinition) (trigger : String) :
    ((build version definitions).matching trigger).length =
      (definitions.map (·.trigger)).count trigger := by
  rw [matching_build_eq, List.length_map, List.count_eq_countP, List.countP_map, List.countP_eq_length_filter]
  rfl

theorem toFinset_names_build (version : Nat) (definitions : List WorkflowDefinition) :
    (build version definitions).byTrigger.names.toFinset = triggers definitions := by
  ext trigger
  rw [List.mem_toFinset, triggers, List.mem_toFinset]
  have hnames := Table.mem_names_foldl_update (α := List Workflow) WorkflowDefinition.trigger
    (fun d group => group.getD [] ++ [Workflow.ofDefinition d]) definitions .empty trigger
  exact hnames.trans (or_iff_right List.not_mem_nil)

/-- What an index is to a list of definitions. -/
structure Groups (index : WorkflowIndex) (version : Nat) (definitions : List WorkflowDefinition) : Prop where
  version_eq : index.version = version
  matching_eq : ∀ trigger, index.matching trigger =
    (definitions.filter (·.trigger = trigger)).map Workflow.ofDefinition
  size_eq : index.size = definitions.length
  size_eq_sum : index.size = ∑ trigger ∈ triggers definitions, (index.matching trigger).length
  triggerCount_eq : index.triggerCount = (triggers definitions).card
  resolved : ∀ trigger, ∀ w ∈ index.matching trigger,
    List.Forall₂ (fun spec action => action = Action.ofSpec spec ∧ spec.ResolvesTo action)
      w.definition.actions w.actions

/-- **Building an index loses, repeats and reorders nothing.**  Under every trigger the index holds the workflows
that the list declares with it, in their order; it is as large as the list, which is the sum of its groups, and
has as many groups as the list has triggers; and every workflow in it has an action in the place of each
declared one. -/
theorem groups_build (version : Nat) (definitions : List WorkflowDefinition) :
    (build version definitions).Groups version definitions := by
  have hsize : (build version definitions).size = definitions.length := rfl
  refine ⟨rfl, matching_build_eq version definitions, hsize, ?_, ?_, ?_⟩
  · calc (build version definitions).size
        = (definitions.map (·.trigger)).length := by rw [hsize, List.length_map]
      _ = ∑ trigger ∈ triggers definitions, (definitions.map (·.trigger)).count trigger :=
          (List.sum_toFinset_count_eq_length _).symm
      _ = ∑ trigger ∈ triggers definitions, ((build version definitions).matching trigger).length := by
          simp only [length_matching_build]
  · rw [← toFinset_names_build version, List.toFinset_card_of_nodup (Table.nodup_names _), Table.length_names]
    rfl
  · intro trigger w hw
    rw [matching_build_eq] at hw
    obtain ⟨d, -, rfl⟩ := List.mem_map.1 hw
    refine List.forall₂_map_right_iff.2 (List.forall₂_same.2 ?_)
    intro spec _
    exact ⟨rfl, Action.resolvesTo_ofSpec spec⟩

end WorkflowIndex

end RecordGate
