import Mathlib.Data.List.Basic
import RecordGate.Proofs.Engine.Steps
import RecordGate.Proofs.Permission.Answers
import RecordGate.Proofs.Workflow.Calls

/-!
# Histories

A history of an engine is a list of operations: manifests offered, workflows reloaded, listeners added,
questions asked, events emitted, and whatever happens outside in between.  A listener that is called while
an event is emitted may use the engine in turn.  It does so through the same operations, so what it does is
a history of its own, inside the emission.

`Accepts` says which manifests a history installed, those that listeners offered included.  A host whose
listeners use the engine through its operations has such an account of every history: `exists_accepts`.

`Engine.Invariant` names what has to be shown once for each way an engine changes, and its `performAll`
carries that through a history.
-/

namespace RecordGate

variable {ι σ : Type}

/-! ### The last of a list -/

theorem concat_eq_append_cons {α : Type} {past earlier later : List α} {t u : α} :
    past ++ [t] = earlier ++ u :: later ↔
      (past = earlier ∧ t = u ∧ later = []) ∨ ∃ rest, later = rest ++ [t] ∧ past = earlier ++ u :: rest := by
  constructor
  · intro h
    rcases later.eq_nil_or_concat' with rfl | ⟨rest, x, rfl⟩
    · obtain ⟨hpast, ht⟩ := List.append_inj' h rfl
      exact .inl ⟨hpast, List.singleton_inj.1 ht, rfl⟩
    · rw [← List.cons_append, ← List.append_assoc] at h
      obtain ⟨hpast, ht⟩ := List.append_inj' h rfl
      obtain rfl := List.singleton_inj.1 ht
      exact .inr ⟨rest, rfl, hpast⟩
  · rintro (⟨rfl, rfl, rfl⟩ | ⟨rest, rfl, rfl⟩)
    · rfl
    · simp

/-! ### Operations -/

/-- What can be done with an engine, or happens outside of it. -/
inductive Operation (ι σ : Type) where
  | apply (m : Manifest)
  | reload (workflows : List WorkflowDefinition)
  | listen (trigger : String) (listener : ι)
  | check (entity : String) (caller : Caller) (snapshot : Option Snapshot) (action : String)
  | permitted (entity : String) (caller : Caller) (records : List Snapshot) (action : String)
  | allowedActions (entity : String) (caller : Caller) (snapshot : Option Snapshot)
  | evaluate (rule : String) (context : Context)
  | emit (delivery : Delivery) (trigger : String) (event : Event) (now : Instant)
  | outside (s : σ)

namespace Operation

/-- The world after an operation. -/
def perform (host : Host ι σ) (w : World ι σ) : Operation ι σ → World ι σ
  | apply m => { w with engine := (w.engine.apply m).2 }
  | reload workflows => { w with engine := (w.engine.reload workflows).2 }
  | listen trigger listener => { w with engine := w.engine.listen trigger listener }
  | check entity caller snapshot action =>
    { w with engine := (w.engine.check entity caller snapshot action).2 }
  | permitted entity caller records action =>
    { w with engine := (w.engine.permitted entity caller records action).2 }
  | allowedActions entity caller snapshot =>
    { w with engine := (w.engine.allowedActions entity caller snapshot).2 }
  | evaluate rule context => { w with engine := (w.engine.ask (Permission.passes rule context)).2 }
  | emit delivery trigger event now => (Dispatch.run host delivery trigger event now w).2
  | outside s => { w with outside := s }

/-- The world after a list of operations. -/
def performAll (host : Host ι σ) (w : World ι σ) (ops : List (Operation ι σ)) : World ι σ :=
  ops.foldl (perform host) w

@[simp] theorem performAll_nil (host : Host ι σ) (w : World ι σ) : performAll host w [] = w := rfl

@[simp] theorem performAll_cons (host : Host ι σ) (w : World ι σ) (o : Operation ι σ)
    (ops : List (Operation ι σ)) :
    performAll host w (o :: ops) = performAll host (o.perform host w) ops := rfl

@[simp] theorem performAll_append (host : Host ι σ) (w : World ι σ)
    (ops ops' : List (Operation ι σ)) :
    performAll host w (ops ++ ops') = performAll host (performAll host w ops) ops' := by
  simp [performAll]

/-- Operations that neither offer a manifest nor call listeners. -/
def isQuiet : Operation ι σ → Bool
  | apply _ => false
  | emit _ _ _ _ => false
  | _ => true

end Operation

open Operation

/-! ### Installed manifests -/

/-- The manifests that operations install, one after another.  During an emission these are the ones that
the listeners install, through operations that leave the world as the listeners do. -/
inductive Accepts (host : Host ι σ) : World ι σ → List (Operation ι σ) → List Manifest → Prop where
  | nil {w : World ι σ} : Accepts host w [] []
  | accepted {w : World ι σ} {m : Manifest} {version : Nat} {ops : List (Operation ι σ)}
      {ms : List Manifest} (happly : (w.engine.apply m).1 = .ok version)
      (hrest : Accepts host ((apply m).perform host w) ops ms) :
      Accepts host w (.apply m :: ops) (m :: ms)
  | rejected {w : World ι σ} {m : Manifest} {problem : LoadError} {ops : List (Operation ι σ)}
      {ms : List Manifest} (happly : (w.engine.apply m).1 = .error problem)
      (hrest : Accepts host ((apply m).perform host w) ops ms) :
      Accepts host w (.apply m :: ops) ms
  | emitted {w : World ι σ} {delivery : Delivery} {trigger : String} {event : Event} {now : Instant}
      {inner ops : List (Operation ι σ)} {ns ms : List Manifest}
      (hlisteners : performAll host w inner =
        (Dispatch.callListeners host trigger event (w.engine.listenersOf trigger) w).2)
      (hinner : Accepts host w inner ns)
      (hrest : Accepts host ((emit delivery trigger event now).perform host w) ops ms) :
      Accepts host w (.emit delivery trigger event now :: ops) (ns ++ ms)
  | quiet {w : World ι σ} {o : Operation ι σ} {ops : List (Operation ι σ)} {ms : List Manifest}
      (ho : o.isQuiet = true) (hrest : Accepts host (o.perform host w) ops ms) :
      Accepts host w (o :: ops) ms

theorem Accepts.append {host : Host ι σ} {w : World ι σ} {ops ops' : List (Operation ι σ)}
    {ms ms' : List Manifest} (h : Accepts host w ops ms)
    (h' : Accepts host (performAll host w ops) ops' ms') :
    Accepts host w (ops ++ ops') (ms ++ ms') := by
  induction h with
  | nil => exact h'
  | accepted happly _ ih => exact .accepted happly (ih h')
  | rejected happly _ ih => exact .rejected happly (ih h')
  | emitted hlisteners hinner _ _ ih =>
    rw [List.append_assoc]
    exact .emitted hlisteners hinner (ih h')
  | quiet ho _ ih => exact .quiet ho (ih h')

/-! ### Listeners -/

/-- Every listener, whatever it is called with, does to the world what some operations do to it. -/
def Host.UsesOperations (host : Host ι σ) : Prop :=
  ∀ listener trigger event w, ∃ ops ms,
    performAll host w ops = (host.hear listener trigger event w).2 ∧ Accepts host w ops ms

theorem Host.UsesOperations.callListeners {host : Host ι σ} (hhost : host.UsesOperations)
    (trigger : String) (event : Event) (listeners : List ι) (w : World ι σ) :
    ∃ ops ms, performAll host w ops = (Dispatch.callListeners host trigger event listeners w).2 ∧
      Accepts host w ops ms := by
  induction listeners generalizing w with
  | nil => exact ⟨[], [], rfl, .nil⟩
  | cons listener rest ih =>
    obtain ⟨ops, ms, hops, hms⟩ := hhost listener trigger event w
    obtain ⟨ops', ms', hops', hms'⟩ := ih (host.hear listener trigger event w).2
    refine ⟨ops ++ ops', ms ++ ms', ?_, hms.append (hops ▸ hms')⟩
    rw [performAll_append, hops, hops', Dispatch.callListeners_cons]

/-- Every history has an account of the manifests it installed. -/
theorem Host.UsesOperations.exists_accepts {host : Host ι σ} (hhost : host.UsesOperations)
    (ops : List (Operation ι σ)) (w : World ι σ) : ∃ ms, Accepts host w ops ms := by
  induction ops generalizing w with
  | nil => exact ⟨[], .nil⟩
  | cons o rest ih =>
    obtain ⟨ms, hms⟩ := ih (o.perform host w)
    cases o with
    | apply m =>
      cases happly : (w.engine.apply m).1 with
      | ok version => exact ⟨m :: ms, .accepted happly hms⟩
      | error problem => exact ⟨ms, .rejected happly hms⟩
    | emit delivery trigger event now =>
      obtain ⟨inner, ns, hinner, hns⟩ :=
        hhost.callListeners trigger event (w.engine.listenersOf trigger) w
      exact ⟨ns ++ ms, .emitted hinner hns hms⟩
    | reload workflows => exact ⟨ms, .quiet rfl hms⟩
    | listen trigger listener => exact ⟨ms, .quiet rfl hms⟩
    | check entity caller snapshot action => exact ⟨ms, .quiet rfl hms⟩
    | permitted entity caller records action => exact ⟨ms, .quiet rfl hms⟩
    | allowedActions entity caller snapshot => exact ⟨ms, .quiet rfl hms⟩
    | evaluate rule context => exact ⟨ms, .quiet rfl hms⟩
    | outside s => exact ⟨ms, .quiet rfl hms⟩

/-! ### Invariants of a history -/

theorem Dispatch.sound_visitOne {w : World ι σ} (hsound : w.engine.evaluator.Sound) (host : Host ι σ)
    (delivery : Delivery) (o : Occurrence) (conditions : Context) (workflow : Workflow) :
    (visitOne host delivery o conditions workflow w).2.engine.evaluator.Sound := by
  rw [visitOne_engine]
  exact (Workflow.answers_meets workflow.condition conditions _ hsound).2

/-- A property of an engine by which its evaluator is sound, and that depends neither on what the evaluator
remembers nor on the listeners. -/
structure Engine.Lasting (P : Engine ι → Prop) : Prop where
  sound : ∀ {e}, P e → e.evaluator.Sound
  evaluator : ∀ {e evaluator}, P e → evaluator.Sound → P { e with evaluator := evaluator }
  listen : ∀ {e trigger listener}, P e → P (e.listen trigger listener)

namespace Engine.Lasting

variable {P : Engine ι → Prop} {e : Engine ι} {w : World ι σ}

theorem ask (hP : Lasting P) (h : P e) {α : Type} {question : Permission.Asking α} {a : α}
    (hq : Evaluator.Answers question a) : P (e.ask question).2 :=
  hP.evaluator h (hq e.evaluator (hP.sound h)).2

theorem visitOne (hP : Lasting P) (h : P w.engine) (host : Host ι σ) (delivery : Delivery)
    (o : Occurrence) (conditions : Context) (workflow : Workflow) :
    P (Dispatch.visitOne host delivery o conditions workflow w).2.engine := by
  have hasked := Workflow.answers_meets workflow.condition conditions _ (hP.sound h)
  rw [Dispatch.visitOne_engine]
  exact hP.evaluator h hasked.2

theorem visit (hP : Lasting P) (h : P w.engine) (host : Host ι σ) (delivery : Delivery)
    (o : Occurrence) (conditions : Context) (workflows : List Workflow) :
    P (Dispatch.visit host delivery o conditions workflows w).2.engine := by
  induction workflows generalizing w with
  | nil => exact h
  | cons workflow rest ih =>
    rw [Dispatch.visit_cons]
    exact ih (hP.visitOne h host delivery o conditions workflow)

theorem quiet (hP : Lasting P) (h : P w.engine) (host : Host ι σ) {o : Operation ι σ}
    (ho : o.isQuiet = true)
    (hreload : ∀ workflows, o = .reload workflows → P (w.engine.reload workflows).2) :
    P (o.perform host w).engine := by
  cases o with
  | apply m => cases ho
  | emit delivery trigger event now => cases ho
  | reload workflows => exact hreload workflows rfl
  | listen trigger listener => exact hP.listen h
  | check entity caller snapshot action =>
    exact hP.ask h (Permission.answers_check _ _ caller snapshot action)
  | permitted entity caller records action =>
    exact hP.ask h (Permission.answers_permitted _ _ caller records action)
  | allowedActions entity caller snapshot =>
    exact hP.ask h (Permission.answers_allowedActions _ _ caller snapshot)
  | evaluate rule context => exact hP.ask h (Permission.answers_passes rule context)
  | outside s => exact h

end Engine.Lasting

/-- A property of the manifest installed last and the engine that every step of an operation keeps, while
the evaluator stays sound. -/
structure Engine.Invariant (P : Option Manifest → Engine ι → Prop) : Prop where
  sound : ∀ {last e}, P last e → e.evaluator.Sound
  evaluator : ∀ {last e evaluator}, P last e → evaluator.Sound →
    P last { e with evaluator := evaluator }
  install : ∀ {last e m}, P last e → m.check = .ok () → P (some m) (e.install m)
  reload : ∀ {last e workflows}, P last e → P last (e.reload workflows).2
  listen : ∀ {last e trigger listener}, P last e → P last (e.listen trigger listener)

theorem Engine.apply_eq_ok {e : Engine ι} {m : Manifest} {version : Nat}
    (happly : (e.apply m).1 = .ok version) : m.check = .ok () ∧ (e.apply m).2 = e.install m := by
  unfold Engine.apply at happly ⊢
  cases hcheck : m.check with
  | error problem => simp [hcheck] at happly
  | ok _ => exact ⟨rfl, rfl⟩

theorem Engine.apply_eq_error {e : Engine ι} {m : Manifest} {problem : LoadError}
    (happly : (e.apply m).1 = .error problem) : (e.apply m).2 = e := by
  unfold Engine.apply at happly ⊢
  cases hcheck : m.check with
  | error problem => rfl
  | ok _ => simp [hcheck] at happly

namespace Engine.Invariant

variable {P : Option Manifest → Engine ι → Prop} {last : Option Manifest} {e : Engine ι}
  {w : World ι σ}

theorem lasting (hP : Invariant P) (last : Option Manifest) : Lasting (P last) :=
  ⟨hP.sound, hP.evaluator, hP.listen⟩

/-- **Operations keep an invariant**, from the manifest installed last before them to the one installed
last after them. -/
theorem performAll (hP : Invariant P) {host : Host ι σ} {ops : List (Operation ι σ)}
    {ms : List Manifest} (hms : Accepts host w ops ms) (last : Option Manifest)
    (h : P last w.engine) :
    P (ms.getLast?.or last) (Operation.performAll host w ops).engine := by
  induction hms generalizing last with
  | nil => exact h
  | @accepted w m version ops ms happly hrest ih =>
    obtain ⟨hcheck, hinstall⟩ := Engine.apply_eq_ok happly
    have hkept : P (some m) ((Operation.apply m).perform host w).engine := by
      rw [Operation.perform, hinstall]
      exact hP.install h hcheck
    have hlast := ih _ hkept
    rw [List.getLast?_cons]
    cases hms : ms.getLast? with
    | none => simpa [hms] using hlast
    | some n => simpa [hms] using hlast
  | @rejected w m problem ops ms happly hrest ih =>
    refine ih last ?_
    rw [Operation.perform, Engine.apply_eq_error happly]
    exact h
  | @emitted w delivery trigger event now inner ops ns ms hlisteners hinner hrest ih_inner ih =>
    have hheard := ih_inner last h
    rw [hlisteners] at hheard
    rw [List.getLast?_append, Option.or_assoc]
    exact ih _ ((hP.lasting _).visit hheard host delivery _ _ _)
  | quiet ho hrest ih => exact ih _ ((hP.lasting _).quiet h host ho fun _ _ => hP.reload h)

end Engine.Invariant

end RecordGate
