import RecordGate.Proofs.Engine.Decision
import RecordGate.Proofs.Engine.Shares
import RecordGate.Proofs.Text.ByteOrder

/-!
# Lists of what is granted

The engine decides about one action on one record, lists the actions that it grants on a record, and keeps the
records on which it grants an action.  The three ask its evaluator in different orders and leave it remembering
different rules, but a sound evaluator gives the same answers whatever it remembers.  So a list has exactly what
the single decisions grant, also when these are asked for at another time, as long as the rules and the setting
for missing rules are the same.

`ListsGranted` says what such a list is, without the candidates that the gate goes through: it names an action exactly
if it is one of `create`, `read`, `update` and `delete` or has a rule, and is granted; it names none twice; the four
standard actions come first, in this order, and the others follow in the order of their bytes.  Every filter of the
candidates is such a list (`listsGranted_filter_candidates`), whatever is granted.

Main statement: `lists_agree_with_check`.
-/

namespace RecordGate

open RecordGate.Text

variable {ι σ : Type}

namespace Permission

/-! ### Granted actions -/

/-- What a list of granted actions is to be: it has the actions, among create, read, update, delete and those with a
rule, that are granted, and none of them twice.  The four come first, in this order, and the others after them in the
order of the bytes of their names. -/
structure ListsGranted (rules : RuleSet) (grants : String → Bool) (actions : List String) : Prop where
  nodup : actions.Nodup
  mem_iff : ∀ action, action ∈ actions ↔
    (action ∈ ["create", "read", "update", "delete"] ∨ (rules.find? action).isSome = true) ∧ grants action = true
  ordered : ∃ others, actions = ["create", "read", "update", "delete"].filter grants ++ others ∧
    others.Pairwise fun a b => bytes a < bytes b

theorem mem_candidates_iff {rules : RuleSet} {action : String} :
    action ∈ candidates rules ↔ action ∈ standardActions ∨ (rules.find? action).isSome = true := by
  rw [candidates, List.mem_append, List.mem_filter, Table.mem_names_iff]
  by_cases h : action ∈ standardActions <;> simp [h]

theorem nodup_candidates (rules : RuleSet) : (candidates rules).Nodup := by
  have hstandard : standardActions.Nodup := by decide
  have hnames : rules.names.Nodup := by
    refine rules.pairwise_names.imp ?_
    rintro a b hlt rfl
    exact String.lt_irrefl a hlt
  refine List.nodup_append.2 ⟨hstandard, hnames.filter _, ?_⟩
  rintro action h other h' rfl
  have hother := (List.mem_filter.1 h').2
  simp [h] at hother

theorem listsGranted_filter_candidates (rules : RuleSet) (grants : String → Bool) :
    ListsGranted rules grants ((candidates rules).filter grants) where
  nodup := (nodup_candidates rules).filter _
  mem_iff action := by
    rw [List.mem_filter, mem_candidates_iff]
    exact Iff.rfl
  ordered := by
    refine ⟨_, List.filter_append _ _, ?_⟩
    have hnames := (rules.pairwise_names.filter fun action => !standardActions.contains action).filter grants
    exact hnames.imp lt_iff_bytes_lt.1

end Permission

open Permission

/-! ### Answers of an engine -/

theorem Engine.check_eq_decides {e : Engine ι} (hsound : e.evaluator.Sound) (entity : String) (caller : Caller)
    (snapshot : Option Snapshot) (action : String) :
    (e.check entity caller snapshot action).1 = decides e.missing (e.rules entity) caller snapshot action :=
  (answers_check e.missing (e.rules entity) caller snapshot action e.evaluator hsound).1

theorem Engine.allowedActions_eq {e : Engine ι} (hsound : e.evaluator.Sound) (entity : String) (caller : Caller)
    (snapshot : Option Snapshot) :
    (e.allowedActions entity caller snapshot).1 =
      (candidates (e.rules entity)).filter (decides e.missing (e.rules entity) caller snapshot) :=
  (answers_allowedActions e.missing (e.rules entity) caller snapshot e.evaluator hsound).1

theorem Engine.permitted_eq {e : Engine ι} (hsound : e.evaluator.Sound) (entity : String) (caller : Caller)
    (records : List Snapshot) (action : String) :
    (e.permitted entity caller records action).1 =
      records.filter fun record => decides e.missing (e.rules entity) caller (some record) action :=
  (answers_permitted e.missing (e.rules entity) caller records action e.evaluator hsound).1

theorem Host.Reaches.sound {host : Host ι σ} {e : Engine ι} (h : host.Reaches e) (hhost : host.UsesOperations) :
    e.evaluator.Sound := (h.ready hhost).sound

/-- **Lists have what single decisions grant.**  Take an engine after any history, and one after any history that
has the same setting for missing rules and the same rules for an entity, such as the first one at a later time.
The list of allowed actions that the one gives has exactly the actions that the other grants, each once: of create,
read, update and delete those that are granted, in this order, and then the others in the order of their bytes.  And of
a list of records the one keeps exactly those on which the other grants the action, in their order and each as often as
it occurs. -/
theorem lists_agree_with_check {host : Host ι σ} (hhost : host.UsesOperations) {e e' : Engine ι}
    (he : host.Reaches e) (he' : host.Reaches e') (hmissing : e'.missing = e.missing) (entity : String)
    (hrules : e'.rules entity = e.rules entity) (caller : Caller) :
    (∀ snapshot, ListsGranted (e.rules entity) (fun action => (e'.check entity caller snapshot action).1)
      (e.allowedActions entity caller snapshot).1) ∧
    ∀ records action, (e.permitted entity caller records action).1 =
      records.filter fun record => (e'.check entity caller (some record) action).1 := by
  have hdecides (snapshot : Option Snapshot) (action : String) :
      (e'.check entity caller snapshot action).1 =
        decides e.missing (e.rules entity) caller snapshot action := by
    rw [Engine.check_eq_decides (he'.sound hhost), hmissing, hrules]
  constructor
  · intro snapshot
    have hgrants : (fun action => (e'.check entity caller snapshot action).1) =
        decides e.missing (e.rules entity) caller snapshot := funext (hdecides snapshot)
    rw [hgrants, Engine.allowedActions_eq (he.sound hhost)]
    exact listsGranted_filter_candidates _ _
  · intro records action
    rw [Engine.permitted_eq (he.sound hhost)]
    simp only [hdecides]

/-! ### An entity with an action of its own -/

/-- Tasks can be archived by their owners, and nobody deletes them. -/
def archival : Manifest :=
  ⟨.insert .empty "task" ⟨.insert (.insert .empty "archive" "isOwner") "delete" "false"⟩, []⟩

/-- An engine with these rules, after it was asked some questions; it remembers one rule at a time. -/
def archiving (questions : List (Operation Manifest Unit)) : Engine Manifest :=
  (Operation.performAll relay ⟨.fresh .allow 1, ()⟩ (.apply archival :: questions)).engine

/-- The owner of a task may archive it and may not delete it; what is listed before other questions were asked is
what is granted after them, with the actions that need no rule in front.  Of a note, which has no rules, all four
are granted. -/
theorem lists_agree_with_check_archival :
    let owner : Caller := .ofUser (.ofIdentity "u1" "u1@example.com")
    let owned : Snapshot := .insert .empty "createdBy" (.text "u1")
    let questions : List (Operation Manifest Unit) :=
      [.evaluate "true" .empty, .check "task" .anonymous none "archive"]
    ListsGranted ((archiving []).rules "task")
        (fun action => ((archiving questions).check "task" owner (some owned) action).1)
        ((archiving []).allowedActions "task" owner (some owned)).1 ∧
      ((archiving []).allowedActions "task" owner (some owned)).1 = ["create", "read", "update", "archive"] ∧
      ((archiving []).allowedActions "note" owner none).1 = ["create", "read", "update", "delete"] ∧
      ((archiving []).permitted "task" owner [.empty, owned, .empty, owned] "archive").1 =
        [Table.empty, owned, .empty, owned].filter fun record =>
          ((archiving questions).check "task" owner (some record) "archive").1 := by
  intro owner owned questions
  have hreached (asked : List (Operation Manifest Unit)) : relay.Reaches (archiving asked) := ⟨_, _, _, _, rfl⟩
  obtain ⟨hlists, hkept⟩ := lists_agree_with_check usesOperations_relay (hreached []) (hreached questions) rfl
    "task" rfl owner
  refine ⟨hlists (some owned), ?_, ?_, hkept _ _⟩
  · decide +kernel
  · decide +kernel

end RecordGate
