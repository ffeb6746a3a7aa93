import RecordGate.Engine.Basic

/-!
# Installing at the same time

Several callers may install something at one time.  The rules and the workflows of an engine have a lock each.  A
manifest is installed under the lock of the rules, in steps between which other callers get their turns: its version
is chosen, its workflows are placed, its rules are published, and the lock is given back.  The lock of the workflows
is held for no more than one of these steps.  A reload holds it while it reads the version and places the workflows,
so that it is one step, and does not ask for the lock of the rules.
-/

namespace RecordGate

/-- How far a caller has come with what it installs. -/
inductive Installer where
  | offering (m : Manifest)
  | holding (m : Manifest)
  | numbered (m : Manifest) (version : Nat)
  | halfway (m : Manifest) (version : Nat)
  | whole (version : Nat)
  | accepted (version : Nat)
  | refused (problem : LoadError)
  | reloading (workflows : List WorkflowDefinition)
  | reloaded (version : Nat)
  deriving Inhabited

namespace Engine

variable {ι : Type}

/-- Install workflows under a version that was chosen before. -/
def placeWorkflows (e : Engine ι) (version : Nat) (workflows : List WorkflowDefinition) : Engine ι :=
  { e with index := .build version workflows }

/-- Install the rules of a manifest under a version that was chosen before. -/
def publishRules (e : Engine ι) (version : Nat) (m : Manifest) : Engine ι :=
  { e with registry := ⟨version, m.entities.map fun _ policy => policy.permissions⟩ }

end Engine

/-- An engine with its callers, and the one that holds the lock of the rules. -/
structure Site (κ ι : Type) where
  engine : Engine ι
  lock : Option κ
  callers : κ → Installer

namespace Site

variable {κ ι : Type} [DecidableEq κ]

/-- A caller has come further. -/
def advance (s : Site κ ι) (k : κ) (installer : Installer) : Site κ ι :=
  { s with callers := fun j => if j = k then installer else s.callers j }

/-- The next step of a caller, unless it is at its end or waits for the lock. -/
def step? (s : Site κ ι) (k : κ) : Option (Site κ ι) :=
  match s.callers k with
  | .offering m =>
    match m.check with
    | .error problem => some (s.advance k (.refused problem))
    | .ok () =>
      match s.lock with
      | none => some { s.advance k (.holding m) with lock := some k }
      | some _ => none
  | .holding m => some (s.advance k (.numbered m s.engine.nextVersion))
  | .numbered m version =>
    some { s.advance k (.halfway m version) with
      engine := s.engine.placeWorkflows version m.workflows }
  | .halfway m version =>
    some { s.advance k (.whole version) with engine := s.engine.publishRules version m }
  | .whole version => some { s.advance k (.accepted version) with lock := none }
  | .reloading workflows =>
    some { s.advance k (.reloaded (s.engine.reload workflows).1) with
      engine := (s.engine.reload workflows).2 }
  | .accepted _ | .refused _ | .reloaded _ => none

end Site

end RecordGate
