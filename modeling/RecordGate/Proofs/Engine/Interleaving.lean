import RecordGate.Engine.Installing

/-!
# Installations that interleave

Callers of one engine take their steps in turns, in any order; a caller that waits for the lock of the rules takes
none.  What a step can do is said once, in `Site.Stepped`, and an `Interleaving` lists the turns that were taken,
each with the site that it found.  A manifest whose turns are not mixed with others is installed as `Engine.apply`
installs it (`Site.schedule_apply`), and a reload is one turn.

Between the turn in which a manifest chooses its version and the turn in which its workflows are placed another
caller may reload, since a reload does not ask for the lock: then the manifest is `Interrupted`.
-/

namespace RecordGate

variable {κ ι : Type}

/-! ### Callers -/

namespace Installer

/-- The caller holds the lock of the rules. -/
def isInside : Installer → Bool
  | holding _ | numbered _ _ | halfway _ _ | whole _ => true
  | _ => false

/-- The caller has chosen a version for its manifest. -/
def isNumbered : Installer → Bool
  | numbered _ _ | halfway _ _ | whole _ | accepted _ => true
  | _ => false

end Installer

/-! ### Turns -/

/-- A step of a caller, with the site that it finds. -/
structure Turn (κ ι : Type) where
  caller : κ
  site : Site κ ι

namespace Turn

def installer (t : Turn κ ι) : Installer := t.site.callers t.caller

@[simp] theorem installer_mk (k : κ) (s : Site κ ι) : (Turn.mk k s).installer = s.callers k := rfl

/-- The caller chooses the version of its manifest. -/
def Numbers (t : Turn κ ι) : Prop := ∃ m, t.installer = .holding m

def Reloads (t : Turn κ ι) : Prop := ∃ workflows, t.installer = .reloading workflows

/-- The version under which a turn places the workflows of a manifest, if it does. -/
def placed? (t : Turn κ ι) : Option Nat :=
  match t.installer with
  | .numbered _ version => some version
  | _ => none

end Turn

variable [DecidableEq κ]

/-! ### Steps -/

namespace Site

@[simp] theorem engine_advance (s : Site κ ι) (k : κ) (installer : Installer) :
    (s.advance k installer).engine = s.engine := rfl

@[simp] theorem lock_advance (s : Site κ ι) (k : κ) (installer : Installer) :
    (s.advance k installer).lock = s.lock := rfl

@[simp] theorem callers_advance (s : Site κ ι) (k : κ) (installer : Installer) :
    (s.advance k installer).callers k = installer := if_pos rfl

theorem callers_advance_of_ne (s : Site κ ι) {j k : κ} (hj : j ≠ k) (installer : Installer) :
    (s.advance k installer).callers j = s.callers j := if_neg hj

/-- What a step of a caller can do. -/
inductive Stepped (s : Site κ ι) (k : κ) : Site κ ι → Prop where
  | refuses {m : Manifest} {problem : LoadError} (hcaller : s.callers k = .offering m) :
      Stepped s k (s.advance k (.refused problem))
  | enters {m : Manifest} (hcaller : s.callers k = .offering m) (hlock : s.lock = none) :
      Stepped s k { s.advance k (.holding m) with lock := some k }
  | numbers {m : Manifest} (hcaller : s.callers k = .holding m) :
      Stepped s k (s.advance k (.numbered m s.engine.nextVersion))
  | places {m : Manifest} {version : Nat} (hcaller : s.callers k = .numbered m version) :
      Stepped s k { s.advance k (.halfway m version) with
        engine := s.engine.placeWorkflows version m.workflows }
  | publishes {m : Manifest} {version : Nat} (hcaller : s.callers k = .halfway m version) :
      Stepped s k { s.advance k (.whole version) with engine := s.engine.publishRules version m }
  | leaves {version : Nat} (hcaller : s.callers k = .whole version) :
      Stepped s k { s.advance k (.accepted version) with lock := none }
  | reloads {workflows : List WorkflowDefinition} (hcaller : s.callers k = .reloading workflows) :
      Stepped s k { s.advance k (.reloaded (s.engine.reload workflows).1) with
        engine := (s.engine.reload workflows).2 }

theorem Stepped.callers_of_ne {s s' : Site κ ι} {j k : κ} (h : s.Stepped k s') (hj : j ≠ k) :
    s'.callers j = s.callers j := by
  cases h <;> exact callers_advance_of_ne s hj _

end Site

/-! ### Interleavings -/

/-- Turns that are taken one after another, by any callers in any order. -/
inductive Interleaving (start : Site κ ι) : List (Turn κ ι) → Site κ ι → Prop where
  | nil : Interleaving start [] start
  | turn {turns : List (Turn κ ι)} {s s' : Site κ ι} {k : κ} (h : Interleaving start turns s)
      (hstep : s.step? k = some s') : Interleaving start (turns ++ [⟨k, s⟩]) s'

theorem Interleaving.cons {s s' finish : Site κ ι} {turns : List (Turn κ ι)} {k : κ} (hstep : s.step? k = some s')
    (h : Interleaving s' turns finish) : Interleaving s (⟨k, s⟩ :: turns) finish := by
  induction h with
  | nil => exact Interleaving.nil.turn hstep
  | turn _ hnext ih => exact ih.turn hnext

/-- The turns of callers that are to take them in this order, and the site that they leave.  A turn that cannot be
taken is left out. -/
def Site.schedule (s : Site κ ι) : List κ → List (Turn κ ι) × Site κ ι
  | [] => ([], s)
  | k :: rest =>
    match s.step? k with
    | some s' => (⟨k, s⟩ :: (schedule s' rest).1, (schedule s' rest).2)
    | none => schedule s rest

/-- A manifest whose steps are taken one after another is installed as `Engine.apply` installs it. -/
theorem Site.schedule_apply {s : Site κ ι} {k : κ} {m : Manifest} (hcaller : s.callers k = .offering m)
    (hlock : s.lock = none) :
    (s.schedule [k, k, k, k, k]).2.engine = (s.engine.apply m).2 ∧
      (s.schedule [k, k, k, k, k]).2.lock = none ∧
      (s.schedule [k, k, k, k, k]).2.callers k =
        match (s.engine.apply m).1 with
        | .ok version => .accepted version
        | .error problem => .refused problem := by
  cases hcheck : m.check with
  | error problem => simp [schedule, step?, hcaller, hcheck, hlock, Engine.apply]
  | ok _ =>
    simp [schedule, step?, hcaller, hcheck, hlock, Engine.apply, Engine.install, Engine.placeWorkflows,
      Engine.publishRules]

/-! ### What happens in the course of turns -/

/-- A caller has chosen a version, and a reload came after that. -/
def ReloadedSince (k : κ) (past : List (Turn κ ι)) : Prop :=
  ∃ earlier t later, past = earlier ++ t :: later ∧ t.caller = k ∧ t.Numbers ∧ ∃ u ∈ later, u.Reloads

end RecordGate
