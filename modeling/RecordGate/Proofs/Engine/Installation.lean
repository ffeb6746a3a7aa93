import RecordGate.Engine.Basic
import RecordGate.Proofs.Manifest.Problems
import RecordGate.Proofs.Workflow.Index

/-!
# What a manifest installs

An engine keeps its rules in one place and its workflows in another, each with a version of its own.  A manifest
replaces both or none.  `Engine.Carries` says that both are those of one manifest, with nothing beside them, and
that both have the same version: an entity that the manifest does not declare has no rules, whatever it had
before, and a trigger finds the workflows of the manifest and no others.

The new version is greater than both old ones (`version_lt_nextVersion`), so that neither a manifest before this one nor
a reload in between had it.  A manifest with problems is answered with these problems, and the engine is the same
engine afterwards, in all its parts.

Main statement: `apply_all_or_nothing`.
-/

namespace RecordGate

variable {ι : Type}

/-- The rules that a manifest declares of an entity. -/
def Manifest.rules (m : Manifest) (entity : String) : RuleSet :=
  ((m.entities.find? entity).map EntityPolicy.permissions).getD .empty

theorem Engine.rules_install (e : Engine ι) (m : Manifest) (entity : String) :
    (e.install m).rules entity = m.rules entity := by
  rw [Manifest.rules, ← Table.find?_map (fun _ => EntityPolicy.permissions)]
  rfl

namespace Engine

/-- The rules and the workflows are those of a manifest, under one version. -/
structure Carries (e : Engine ι) (m : Manifest) (version : Nat) : Prop where
  registry_version : e.registry.version = version
  index_version : e.index.version = version
  rules_of_declared : ∀ entity policy, m.entities.find? entity = some policy →
    e.rules entity = policy.permissions
  rules_of_undeclared : ∀ entity, m.entities.find? entity = none → e.rules entity = .empty
  matching_eq : ∀ trigger, e.index.matching trigger =
    (m.workflows.filter (·.trigger = trigger)).map Workflow.ofDefinition
  size_eq : e.index.size = m.workflows.length

theorem carries_install (e : Engine ι) (m : Manifest) : (e.install m).Carries m e.nextVersion where
  registry_version := rfl
  index_version := rfl
  rules_of_declared := by
    intro entity policy hpolicy
    rw [rules_install, Manifest.rules, hpolicy]
    rfl
  rules_of_undeclared := by
    intro entity hnone
    rw [rules_install, Manifest.rules, hnone]
    rfl
  matching_eq := by
    intro trigger
    exact WorkflowIndex.matching_build_eq _ _ trigger
  size_eq := rfl

theorem version_lt_nextVersion (e : Engine ι) :
    e.registry.version < e.nextVersion ∧ e.index.version < e.nextVersion := by
  unfold nextVersion
  omega

/-- **A manifest is installed whole or not at all.**  If anything was found in it, the engine refuses it with all
that was found, and is afterwards the engine that it was.  Otherwise the engine carries the manifest, and nothing
else, under a new version, which is past both earlier ones; the listeners stay. -/
theorem apply_all_or_nothing (e : Engine ι) (m : Manifest) :
    (m.found ≠ [] → e.apply m = (.error (.invalid m.problems), e)) ∧
      (m.found = [] → ∃ version, (e.apply m).1 = .ok version ∧ (e.apply m).2.Carries m version ∧
        (e.registry.version < version ∧ e.index.version < version) ∧
        (e.apply m).2.listeners = e.listeners) := by
  constructor
  · intro hfound
    rw [apply, Manifest.check_of_found_ne_nil hfound]
  · intro hfound
    have happly : e.apply m = (.ok e.nextVersion, e.install m) := by
      rw [apply, Manifest.check_eq_ok_iff_found.2 hfound]
    rw [happly]
    exact ⟨e.nextVersion, rfl, e.carries_install m, e.version_lt_nextVersion, rfl⟩

/-- Rules for notes are installed, and then a workflow without a manifest. -/
def noted : Engine Empty :=
  (((fresh .deny 8).apply ⟨.insert .empty "note" ⟨.insert .empty "read" "true"⟩, []⟩).2.reload
    [.ofTrigger "audit" "saved"]).2

/-- Rules for tasks, and one workflow. -/
def tasks : Manifest :=
  ⟨.insert .empty "task" ⟨.insert .empty "read" "isOwner"⟩, [.ofTrigger "notify" "closed"]⟩

/-- Rules that do not parse, beside some that do. -/
def unclosed : Manifest :=
  ⟨.insert (.insert .empty "task" ⟨.insert .empty "read" "("⟩) "note" ⟨.insert .empty "read" "true"⟩, []⟩

/-- An engine with rules for notes and a reloaded workflow refuses the one manifest and is as before; with the
other the rules for notes and the workflow are gone, and the new version is 3. -/
theorem apply_all_or_nothing_noted :
    (noted.apply unclosed).2 = noted ∧
      (noted.apply tasks).2.rules "note" = .empty ∧ (noted.apply tasks).2.index.matching "saved" = [] ∧
      (noted.apply tasks).2.registry.version = 3 ∧ (noted.apply tasks).2.index.version = 3 := by
  constructor
  · have hfound : unclosed.found ≠ [] := by decide +kernel
    rw [(apply_all_or_nothing noted unclosed).1 hfound]
  · have hfound : tasks.found = [] := by decide +kernel
    obtain ⟨version, hversion, hcarries, -, -⟩ := (apply_all_or_nothing noted tasks).2 hfound
    obtain rfl : 3 = version := by
      have hthree : (noted.apply tasks).1 = .ok 3 := by rfl
      exact Except.ok.inj (hthree.symm.trans hversion)
    refine ⟨hcarries.rules_of_undeclared "note" (by decide), ?_, hcarries.registry_version,
      hcarries.index_version⟩
    rw [hcarries.matching_eq "saved"]
    rfl

end Engine

end RecordGate
