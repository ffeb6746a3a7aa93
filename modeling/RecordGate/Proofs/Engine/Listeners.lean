import RecordGate.Proofs.Engine.Contacts
import RecordGate.Proofs.Engine.Versions

/-!
# Listeners

Listeners are added to an engine one by one, by its users and by other listeners, and none is ever lost.  A dispatch
calls those of its trigger that were there when it began, in the order in which they were added, before it comes to
the first workflow; what they reply is counted and nothing else is done about it.  So listeners that keep away from
the engine, and from what the handler sees, cannot be noticed in what the workflows do: the history of the engine
without all its listeners leads to the same engine but for them, and from there to the same entries and calls.

* `Unfolds.listenersOf_eq`: an operation other than an emission adds the listener that it names, or none
  (`Operation.listenersOf_perform`), and a history adds what its moments add, in their order.
* `Host.ListenersApart`: the listeners leave the engine, and what the handler sees of the world, as they were.  Two
  worlds that differ in their listeners alone are `World.Unheard`, which every operation keeps.
* `Dispatch.HearsFirst`: the contacts of a dispatch, with the listeners in front and their failures counted.
* `Dispatch.SameWorkflows`: entries and calls with the listeners and without them.

Main statement: `listeners_come_first`.
-/

namespace RecordGate

open Operation

variable {ι σ τ : Type}

/-! ### Registrations -/

/-- The listener that an operation adds for a trigger. -/
def Operation.added? (trigger : String) : Operation ι σ → Option ι
  | listen other listener => if other = trigger then some listener else none
  | _ => none

/-- The listeners that are added for a trigger in a history, in their order. -/
def added (trigger : String) (moments : List (Moment ι σ)) : List ι :=
  moments.filterMap fun t => t.operation.added? trigger

theorem Engine.listenersOf_listen (e : Engine ι) (other : String) (listener : ι) (trigger : String) :
    (e.listen other listener).listenersOf trigger =
      e.listenersOf trigger ++ (if other = trigger then [listener] else []) := by
  rw [listen, listenersOf, Table.find?_update]
  by_cases h : other = trigger
  · subst h
    simp [listenersOf]
  · simp [listenersOf, h]

/-- An operation puts the listener that it adds behind the others, if it does not call listeners. -/
theorem Operation.listenersOf_perform (host : Host ι σ) (w : World ι σ) {o : Operation ι σ}
    (ho : o.isEmit = false) (trigger : String) :
    (o.perform host w).engine.listenersOf trigger =
      w.engine.listenersOf trigger ++ (o.added? trigger).toList := by
  cases o with
  | emit delivery trigger event now => cases ho
  | listen other listener =>
    rw [added?, perform, Engine.listenersOf_listen]
    split
    · rfl
    · rfl
  | apply m =>
    change (w.engine.apply m).2.listenersOf trigger = w.engine.listenersOf trigger ++ []
    rw [List.append_nil]
    cases happly : (w.engine.apply m).1 with
    | ok version =>
      rw [(Engine.apply_eq_ok happly).2]
      rfl
    | error problem => rw [Engine.apply_eq_error happly]
  | reload workflows => exact (List.append_nil _).symm
  | check entity caller snapshot action => exact (List.append_nil _).symm
  | permitted entity caller records action => exact (List.append_nil _).symm
  | allowedActions entity caller snapshot => exact (List.append_nil _).symm
  | evaluate rule context => exact (List.append_nil _).symm
  | outside s => exact (List.append_nil _).symm

/-- **No listener is lost.**  After a history an engine has those that it had before, and behind them those that were
added, by listeners too, in the order of its moments. -/
theorem Unfolds.listenersOf_eq {host : Host ι σ} {w : World ι σ} {ops : List (Operation ι σ)}
    {moments : List (Moment ι σ)} (h : Unfolds host w ops moments) (trigger : String) :
    (performAll host w ops).engine.listenersOf trigger = w.engine.listenersOf trigger ++ added trigger moments := by
  induction h with
  | nil => exact (List.append_nil _).symm
  | @emitted w delivery other event now inner ops during later hlisteners _ _ ih_inner ih =>
    -- the workflows that are visited after the listeners add none
    have hvisited : ((emit delivery other event now).perform host w).engine.listenersOf trigger =
        (performAll host w inner).engine.listenersOf trigger := by
      rw [hlisteners]
      exact congrArg (·.listenersOf trigger) (Dispatch.visit_engine host delivery _ _ _ _)
    rw [performAll_cons, ih, hvisited, ih_inner, List.append_assoc]
    simp [added, added?]
  | @plain w o ops later ho _ ih =>
    rw [performAll_cons, ih, listenersOf_perform host w ho, List.append_assoc]
    congr 1
    cases hadded : o.added? trigger <;> simp [added, hadded]

def Operation.isListen : Operation ι σ → Bool
  | listen _ _ => true
  | _ => false

/-! ### Listeners that keep away -/

/-- Listeners leave the engine as it is, and outside what is seen through `view`; and this is all that the handler
sees. -/
structure Host.ListenersApart (host : Host ι σ) (view : σ → τ) : Prop where
  engine_eq : ∀ listener trigger event w, (host.hear listener trigger event w).2.engine = w.engine
  view_eq : ∀ listener trigger event w, view (host.hear listener trigger event w).2.outside = view w.outside
  handle : Handler.Alike (fun s t => view s = view t) host.handle host.handle

/-- An engine from which all listeners have been taken. -/
def Engine.deaf (e : Engine ι) : Engine ι := { e with listeners := .empty }

/-- The second world has the engine of the first without listeners, and looks the same. -/
structure World.Unheard (view : σ → τ) (w v : World ι σ) : Prop where
  engine_eq : v.engine = w.engine.deaf
  view_eq : view w.outside = view v.outside

namespace Host.ListenersApart

variable {host : Host ι σ} {view : σ → τ}

theorem callListeners (h : host.ListenersApart view) (trigger : String) (event : Event) (listeners : List ι)
    (w : World ι σ) :
    (Dispatch.callListeners host trigger event listeners w).2.engine = w.engine ∧
      view (Dispatch.callListeners host trigger event listeners w).2.outside = view w.outside := by
  induction listeners generalizing w with
  | nil => exact ⟨rfl, rfl⟩
  | cons listener rest ih =>
    obtain ⟨hengine, hview⟩ := ih (host.hear listener trigger event w).2
    rw [Dispatch.callListeners_cons]
    exact ⟨hengine.trans (h.engine_eq listener trigger event w), hview.trans (h.view_eq listener trigger event w)⟩

theorem unheard_heard (h : host.ListenersApart view) {w v : World ι σ} (hwv : w.Unheard view v) (trigger : String)
    (event : Event) (listeners listeners' : List ι) :
    (Dispatch.callListeners host trigger event listeners w).2.Unheard view
      (Dispatch.callListeners host trigger event listeners' v).2 := by
  obtain ⟨hengine, hview⟩ := h.callListeners trigger event listeners w
  obtain ⟨hengine', hview'⟩ := h.callListeners trigger event listeners' v
  constructor
  · rw [hengine, hengine', hwv.engine_eq]
  · rw [hview, hview', hwv.view_eq]

end Host.ListenersApart

namespace World.Unheard

variable {host : Host ι σ} {view : σ → τ} {w v : World ι σ}

theorem alike (h : w.Unheard view v) : World.Alike (fun s t => view s = view t) w v where
  evaluator_eq := by
    rw [h.engine_eq]
    rfl
  outside := h.view_eq

theorem visit (h : w.Unheard view v) (hhost : host.ListenersApart view) (delivery : Delivery) (o : Occurrence)
    (conditions : Context) (workflows : List Workflow) :
    (Dispatch.visit host delivery o conditions workflows w).2.Unheard view
      (Dispatch.visit host delivery o conditions workflows v).2 := by
  obtain ⟨-, hevaluator, houtside⟩ := Dispatch.visit_alike hhost.handle h.alike delivery o conditions workflows
  refine ⟨?_, houtside⟩
  rw [Dispatch.visit_engine host delivery o conditions workflows v,
    Dispatch.visit_engine host delivery o conditions workflows w, ← hevaluator, h.engine_eq]
  rfl

theorem listen (h : w.Unheard view v) (host : Host ι σ) (trigger : String) (listener : ι) :
    ((Operation.listen trigger listener).perform host w).Unheard view v :=
  ⟨h.engine_eq, h.view_eq⟩

/-- **Every other operation does the same without listeners.** -/
theorem perform (h : w.Unheard view v) (hhost : host.ListenersApart view) {o : Operation ι σ}
    (ho : o.isListen = false) :
    (o.perform host w).Unheard view (o.perform host v) := by
  obtain ⟨e, s⟩ := w
  obtain ⟨_, t⟩ := v
  obtain ⟨rfl, hview⟩ := h
  cases o with
  | listen trigger listener => cases ho
  | apply m =>
    refine ⟨?_, hview⟩
    change (e.deaf.apply m).2 = (e.apply m).2.deaf
    unfold Engine.apply
    cases m.check with
    | ok _ => rfl
    | error problem => rfl
  | emit delivery trigger event now =>
    have hwv : World.Unheard view ⟨e, s⟩ ⟨e.deaf, t⟩ := ⟨rfl, hview⟩
    have hheard := hhost.unheard_heard hwv trigger event (e.listenersOf trigger) (e.deaf.listenersOf trigger)
    exact hheard.visit hhost delivery ⟨trigger, event, event.templateRoot now⟩ event.conditionContext
      (e.index.matching trigger)
  | reload workflows => exact ⟨rfl, hview⟩
  | check entity caller snapshot action => exact ⟨rfl, hview⟩
  | permitted entity caller records action => exact ⟨rfl, hview⟩
  | allowedActions entity caller snapshot => exact ⟨rfl, hview⟩
  | evaluate rule context => exact ⟨rfl, hview⟩
  | outside s => exact ⟨rfl, rfl⟩

theorem performAll (h : w.Unheard view v) (hhost : host.ListenersApart view) (ops : List (Operation ι σ)) :
    (Operation.performAll host w ops).Unheard view
      (Operation.performAll host v (ops.filter fun o => !o.isListen)) := by
  induction ops generalizing w v with
  | nil => exact h
  | cons o rest ih =>
    cases ho : o.isListen with
    | true =>
      rw [List.filter_cons_of_neg (by simp [ho])]
      cases o with
      | listen trigger listener => exact ih (h.listen host trigger listener)
      | _ => cases ho
    | false =>
      rw [List.filter_cons_of_pos (by simp [ho])]
      exact ih (h.perform hhost ho)

end World.Unheard

/-! ### Dispatches -/

namespace Dispatch

/-- A dispatch calls these listeners, in this order and each once, all of them before the handler, and counts those
that are not done. -/
structure HearsFirst (host : Host ι σ) (delivery : Delivery) (trigger : String) (event : Event) (now : Instant)
    (w : World ι σ) (listeners : List ι) : Prop where
  contacts_eq : contacts host delivery trigger event now w =
    hearings host trigger event listeners w ++ (calls host delivery trigger event now w).map .handled
  length_replies : (replies host trigger event listeners w).length = listeners.length
  failures_eq : (run host delivery trigger event now w).1.1.listenerFailures =
    (replies host trigger event listeners w).countP Reply.isFailure

/-- Two dispatches visit the same workflows alike: their reports have the same entries, they make the same calls of the
handler, and they start the same runs, which make the same calls from states that look the same. -/
structure SameWorkflows (host : Host ι σ) (view : σ → τ) (delivery : Delivery) (trigger : String) (event : Event)
    (now : Instant) (w v : World ι σ) : Prop where
  version_eq : (run host delivery trigger event now w).1.1.version = (run host delivery trigger event now v).1.1.version
  entries_eq : (run host delivery trigger event now w).1.1.entries = (run host delivery trigger event now v).1.1.entries
  calls_eq : calls host delivery trigger event now w = calls host delivery trigger event now v
  started_eq : (run host delivery trigger event now w).1.2 = (run host delivery trigger event now v).1.2
  started_calls : ∀ d ∈ (run host delivery trigger event now w).1.2, ∀ s t, view s = view t →
    (d.run (Handler.recording host.handle) ⟨s, []⟩).1 = (d.run (Handler.recording host.handle) ⟨t, []⟩).1 ∧
      (d.run (Handler.recording host.handle) ⟨s, []⟩).2.calls =
        (d.run (Handler.recording host.handle) ⟨t, []⟩).2.calls

theorem hearsFirst_listenersOf (host : Host ι σ) (delivery : Delivery) (trigger : String) (event : Event)
    (now : Instant) (w : World ι σ) :
    HearsFirst host delivery trigger event now w (w.engine.listenersOf trigger) where
  contacts_eq := contacts_eq host delivery trigger event now w
  length_replies := length_replies host trigger event _ w
  failures_eq := callListeners_eq_countP host trigger event _ w

theorem sameWorkflows_of_unheard {host : Host ι σ} {view : σ → τ} (hhost : host.ListenersApart view)
    {w v : World ι σ} (h : w.Unheard view v) (delivery : Delivery) (trigger : String) (event : Event)
    (now : Instant) : SameWorkflows host view delivery trigger event now w v := by
  have hindex : v.engine.index = w.engine.index := by
    rw [h.engine_eq]
    rfl
  have hheard := hhost.unheard_heard h trigger event (w.engine.listenersOf trigger) (v.engine.listenersOf trigger)
  obtain ⟨hvisited, -⟩ := visit_alike hhost.handle hheard.alike delivery ⟨trigger, event, event.templateRoot now⟩
    event.conditionContext (w.engine.index.matching trigger)
  constructor
  · exact congrArg WorkflowIndex.version hindex.symm
  · rw [run_eq, run_eq, hindex]
    exact congrArg Visit.entries hvisited
  · have hrecording : Handler.Alike (fun r r' => view r.state = view r'.state ∧ r.calls = r'.calls)
        host.recording.handle host.recording.handle := hhost.handle.recording
    have hrecorded : World.Alike (fun r r' => view r.state = view r'.state ∧ r.calls = r'.calls)
        (callListeners host.recording trigger event (w.engine.listenersOf trigger) w.recorded).2
        (callListeners host.recording trigger event (v.engine.listenersOf trigger) v.recorded).2 := by
      rw [callListeners_recording, callListeners_recording]
      exact ⟨hheard.alike.evaluator_eq, hheard.view_eq, rfl⟩
    obtain ⟨-, -, -, hcalls⟩ := visit_alike hrecording hrecorded delivery
      ⟨trigger, event, event.templateRoot now⟩ event.conditionContext (w.engine.index.matching trigger)
    rw [calls, calls, run_eq, run_eq, hindex]
    exact hcalls
  · rw [run_eq, run_eq, hindex]
    exact congrArg Visit.started hvisited
  · intro d _ s t hst
    obtain ⟨houtcome, -, hcalls⟩ := Workflow.perform_alike hhost.handle.recording
      (d.occurrence.invocation d.workflow) 0 d.workflow.recognized (s := ⟨s, []⟩) (t := ⟨t, []⟩) ⟨hst, rfl⟩
    exact ⟨houtcome, hcalls⟩

end Dispatch

/-- **Listeners come first, once each, and their failures are contained.**  Every history of an engine can be written
out, and then a dispatch calls, before it makes its first call of the handler, each listener that was added for its
trigger, in the order in which they were added, and no other listener.  The number of failures in its report is that
of the listeners that failed or broke down.  If the listeners keep away from the engine and from what the handler
sees, it has the entries, and makes the calls, of a dispatch after the same history in which no listener was added. -/
theorem listeners_come_first {host : Host ι σ} (hhost : host.UsesOperations) (missing : MissingRule) (capacity : Nat)
    (outside : σ) (ops : List (Operation ι σ)) :
    (∃ moments, Unfolds host ⟨.fresh missing capacity, outside⟩ ops moments) ∧
    (∀ moments, Unfolds host ⟨.fresh missing capacity, outside⟩ ops moments → ∀ delivery trigger event now,
      Dispatch.HearsFirst host delivery trigger event now (performAll host ⟨.fresh missing capacity, outside⟩ ops)
        (added trigger moments)) ∧
    ∀ {τ : Type} (view : σ → τ), host.ListenersApart view → ∀ delivery trigger event now,
      Dispatch.SameWorkflows host view delivery trigger event now
        (performAll host ⟨.fresh missing capacity, outside⟩ ops)
        (performAll host ⟨.fresh missing capacity, outside⟩ (ops.filter fun o => !o.isListen)) := by
  refine ⟨?_, ?_, ?_⟩
  · obtain ⟨ms, hms⟩ := hhost.exists_accepts ops ⟨.fresh missing capacity, outside⟩
    exact hms.exists_unfolds
  · intro moments hmoments delivery trigger event now
    have hadded : (performAll host ⟨.fresh missing capacity, outside⟩ ops).engine.listenersOf trigger =
        added trigger moments := hmoments.listenersOf_eq trigger
    rw [← hadded]
    exact Dispatch.hearsFirst_listenersOf host delivery trigger event now _
  · intro τ view hapart delivery trigger event now
    have hstart : World.Unheard view (⟨.fresh missing capacity, outside⟩ : World ι σ)
        ⟨.fresh missing capacity, outside⟩ := ⟨rfl, rfl⟩
    exact Dispatch.sameWorkflows_of_unheard hapart (hstart.performAll hapart ops) delivery trigger event now

/-! ### Listeners of different tempers -/

/-- How a listener takes an event. -/
inductive Temper where
  | calm
  | refusing
  | exploding
  deriving DecidableEq

def Temper.reply : Temper → Reply String
  | calm => .done
  | refusing => .failed "refused"
  | exploding => .panicked "exploded"

/-- A host whose listeners write down that they were called, and whose handler counts its calls. -/
def moody : Host Temper (List Temper × Nat) where
  handle _ _ s := (.done, (s.1, s.2 + 1))
  hear temper _ _ w := (temper.reply, { w with outside := (w.outside.1 ++ [temper], w.outside.2) })

theorem usesOperations_moody : moody.UsesOperations :=
  fun temper _ _ w => ⟨[.outside (w.outside.1 ++ [temper], w.outside.2)], [], rfl, .quiet rfl .nil⟩

theorem listenersApart_moody : moody.ListenersApart Prod.snd where
  engine_eq := fun _ _ _ _ => rfl
  view_eq := fun _ _ _ _ => rfl
  handle := fun _ _ _ _ hcount => ⟨rfl, congrArg Nat.succ hcount⟩

/-- Listeners are added for two triggers, of which one has a workflow. -/
def heralded : List (Operation Temper (List Temper × Nat)) :=
  [.listen "saved" .refusing, .listen "closed" .calm, .listen "saved" .exploding, .reload [audit],
    .listen "saved" .calm]

/-- Two of the three listeners of the one trigger fail, and its workflow goes on as if there were none; the listener of
the other is called although there is no workflow. -/
theorem listeners_come_first_moody :
    (∃ moments, Unfolds moody ⟨.fresh .deny 1, ([], 0)⟩ heralded moments ∧
      added "saved" moments = [.refusing, .exploding, .calm] ∧ added "closed" moments = [.calm] ∧
      Dispatch.HearsFirst moody .awaited "saved" default default
        (performAll moody ⟨.fresh .deny 1, ([], 0)⟩ heralded) (added "saved" moments) ∧
      Dispatch.HearsFirst moody .asDeclared "closed" default default
        (performAll moody ⟨.fresh .deny 1, ([], 0)⟩ heralded) (added "closed" moments)) ∧
    (Dispatch.run moody .awaited "saved" default default
      (performAll moody ⟨.fresh .deny 1, ([], 0)⟩ heralded)).1.1 =
        ⟨"saved", 1, 2, [⟨"audit", .completed 3⟩]⟩ ∧
    (Dispatch.run moody .asDeclared "closed" default default
      (performAll moody ⟨.fresh .deny 1, ([], 0)⟩ heralded)).1.1 = ⟨"closed", 1, 0, []⟩ ∧
    Dispatch.SameWorkflows moody Prod.snd .awaited "saved" default default
      (performAll moody ⟨.fresh .deny 1, ([], 0)⟩ heralded)
      (performAll moody ⟨.fresh .deny 1, ([], 0)⟩ [.reload [audit]]) := by
  obtain ⟨⟨moments, hmoments⟩, hfirst, hsame⟩ := listeners_come_first usesOperations_moody .deny 1 ([], 0) heralded
  refine ⟨⟨moments, hmoments, ?_, ?_, hfirst moments hmoments _ _ _ _, hfirst moments hmoments _ _ _ _⟩, ?_, ?_, ?_⟩
  · exact (hmoments.listenersOf_eq "saved").symm.trans (by decide +kernel)
  · exact (hmoments.listenersOf_eq "closed").symm.trans (by decide +kernel)
  · decide +kernel
  · decide +kernel
  · exact hsame Prod.snd listenersApart_moody _ _ _ _

end RecordGate
