import RecordGate.Proofs.Engine.History
import RecordGate.Proofs.Engine.Installation

/-!
# What a decision depends on

A decision of the engine passes through the installed rules and an evaluator that remembers, which the
conditions of workflows use as well.  `Engine.Follows` is what every operation keeps: the setting for
missing rules is the one the engine started with, its rules are those of the manifest installed last, and
its evaluator is sound.  A decision then depends on that manifest and on nothing else that happened.

The rule of an action is looked up in that manifest by `ruleOf?`.  If there is one, the decision is the verdict on it in
the context of the question, evaluated without any memory.  If there is none, or no manifest was ever accepted, the
action is granted if missing rules are set to `allow` and denied if they are set to `deny`.

Main statement: `check_of_history`.
-/

namespace RecordGate

variable {ι σ : Type}

/-- The rule for an action in the manifest that was installed last, if there was one. -/
def ruleOf? (last : Option Manifest) (entity action : String) : Option String :=
  last.bind fun m => (m.rules entity).find? action

/-! ### The invariant -/

/-- The engine decides as the manifest says that was installed last. -/
structure Engine.Follows (missing : MissingRule) (last : Option Manifest) (e : Engine ι) : Prop where
  missing_eq : e.missing = missing
  sound : e.evaluator.Sound
  find?_rules : ∀ entity action, (e.rules entity).find? action = ruleOf? last entity action

namespace Engine.Follows

variable {missing : MissingRule} {last : Option Manifest} {e : Engine ι}

theorem fresh (missing : MissingRule) (capacity : Nat) :
    Follows missing none (.fresh missing capacity : Engine ι) :=
  ⟨rfl, Evaluator.sound_ofCapacity capacity, fun _ _ => rfl⟩

theorem install (h : e.Follows missing last) (m : Manifest) :
    Follows missing (some m) (e.install m) := by
  refine ⟨h.missing_eq, h.sound, ?_⟩
  intro entity action
  rw [rules_install]
  rfl

theorem invariant (missing : MissingRule) :
    Invariant fun last (e : Engine ι) => Follows missing last e where
  sound h := h.sound
  evaluator h he := ⟨h.missing_eq, he, h.find?_rules⟩
  install h _ := h.install _
  reload h := ⟨h.missing_eq, h.sound, h.find?_rules⟩
  listen h := ⟨h.missing_eq, h.sound, h.find?_rules⟩

theorem check_eq (h : e.Follows missing last) (entity : String) (caller : Caller)
    (snapshot : Option Snapshot) (action : String) :
    (e.check entity caller snapshot action).1 =
      match ruleOf? last entity action with
      | some rule => (Expression.evaluate rule (Permission.context caller snapshot action)).passed
      | none => decide (missing = .allow) := by
  have hanswer := Permission.answers_check e.missing (e.rules entity) caller snapshot action
  refine (hanswer e.evaluator h.sound).1.trans ?_
  rw [h.missing_eq]
  have hrule := h.find?_rules entity action
  cases hlast : ruleOf? last entity action with
  | none => exact Permission.decides_of_no_rule (hrule.trans hlast) missing caller snapshot
  | some rule => rw [Permission.decides, hrule, hlast]

end Engine.Follows

/-! ### Decisions after a history -/

/-- **A decision depends on the manifest installed last and on nothing else.**  Whatever was done with an
engine, from any setting for missing rules and any capacity of its evaluator, it decides by the rule of
the manifest installed last, evaluated without a memory; if that has no rule, it grants where missing rules
allow and denies where they deny. -/
theorem check_of_history {host : Host ι σ} (hhost : host.UsesOperations) (missing : MissingRule)
    (capacity : Nat) (outside : σ) (ops : List (Operation ι σ)) :
    (∃ ms, Accepts host ⟨.fresh missing capacity, outside⟩ ops ms) ∧
    ∀ ms, Accepts host ⟨.fresh missing capacity, outside⟩ ops ms →
      ∀ entity caller snapshot action,
        ((Operation.performAll host ⟨.fresh missing capacity, outside⟩ ops).engine.check
            entity caller snapshot action).1 =
          match ruleOf? ms.getLast? entity action with
          | some rule => (Expression.evaluate rule (Permission.context caller snapshot action)).passed
          | none => decide (missing = .allow) := by
  refine ⟨hhost.exists_accepts ops _, ?_⟩
  intro ms hms entity caller snapshot action
  have hfollows := (Engine.Follows.invariant missing).performAll hms none (.fresh missing capacity)
  rw [Option.or_none] at hfollows
  exact hfollows.check_eq entity caller snapshot action

/-! ### A listener that installs a manifest -/

/-- A host whose listeners are manifests, each offered to the engine when its trigger is heard. -/
def relay : Host Manifest Unit where
  handle _ _ s := (.done, s)
  hear m _ _ w := (.done, { w with engine := (w.engine.apply m).2 })

theorem usesOperations_relay : relay.UsesOperations := by
  intro m trigger event w
  cases happly : (w.engine.apply m).1 with
  | ok version => exact ⟨[.apply m], [m], rfl, .accepted happly .nil⟩
  | error problem => exact ⟨[.apply m], [], rfl, .rejected happly .nil⟩

/-- The manifest of one rule. -/
def Manifest.ofRule (entity action rule : String) : Manifest :=
  ⟨Table.empty.insert entity ⟨Table.empty.insert action rule⟩, []⟩

/-- Two manifests are installed, the second by a listener, and a third is refused; the second decides, and denies what
it has no rule for. -/
theorem check_of_history_relay :
    let ops : List (Operation Manifest Unit) :=
      [.apply (.ofRule "task" "read" "false"), .listen "saved" (.ofRule "task" "read" "true"),
        .emit .awaited "saved" default default, .apply (.ofRule "task" "read" "(")]
    ((Operation.performAll relay ⟨.fresh .deny 1, ()⟩ ops).engine.check "task" .anonymous none "read").1 = true ∧
      ((Operation.performAll relay ⟨.fresh .deny 1, ()⟩ ops).engine.check "task" .anonymous none "delete").1 =
        false := by
  intro ops
  have hms : Accepts relay ⟨.fresh .deny 1, ()⟩ ops
      (.ofRule "task" "read" "false" :: ([.ofRule "task" "read" "true"] ++ [])) := by
    refine .accepted rfl (.quiet rfl (.emitted ?_ (.accepted rfl .nil) (.rejected rfl .nil)))
    rfl
  have hdecides := (check_of_history usesOperations_relay .deny 1 () ops).2 _ hms "task" .anonymous none
  exact ⟨hdecides "read", hdecides "delete"⟩

end RecordGate
