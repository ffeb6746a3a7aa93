import Mathlib.Data.List.Forall2
import RecordGate.Proofs.Engine.Isolation

/-!
# Waiting for what is detached

A dispatch that waits runs every workflow to its end.  One that does not wait only starts those that are declared
detached, and reports that they are.  This is all that is different: the two come to the same workflows and skip the
same of them, the workflows that are not detached have the same entries, and once the runs that were started have
come to their ends each workflow has made the same calls.

Both dispatches are made up of the shares of the same workflows.  For one workflow the two shares are compared in
`sameUpToDetachment_share`, where the handler is one whose replies do not depend on what happened before; for all of
them the two walks go side by side (`forall₂_visits`).  A detached run may find anything outside when it is carried out,
as nothing says when that will be.  Listeners may use the engine and what is outside, so it is asked that they reply
alike to both dispatches; the version and the workflows are read before they are called.

Main statement: `agreeUpToDetachment_of_reaches`.
-/

namespace RecordGate

open Operation

variable {ι σ : Type}

/-! ### One workflow -/

/-- The calls of a share once the runs that it started have come to their ends.  Each run begins some time later, in
the state that it finds outside. -/
def Share.allCalls (handle : Handler σ) (found : DetachedRun → σ) (part : Share) : List Call :=
  part.calls ++ part.started.flatMap fun d => (d.run (Handler.recording handle) ⟨found d, []⟩).2.calls

/-- A workflow in a dispatch that does not wait, and in one that does. -/
structure Share.SameUpToDetachment (handle : Handler σ) (emitted awaited : Share) : Prop where
  workflow_eq : emitted.workflow = awaited.workflow
  skipped_iff : emitted.outcome = .skipped ↔ awaited.outcome = .skipped
  attached : emitted.workflow.isDetached = false → emitted.outcome = awaited.outcome
  detached : emitted.workflow.isDetached = true → emitted.outcome ≠ .skipped → emitted.outcome = .detached
  calls_eq : ∀ found found', emitted.allCalls handle found = awaited.allCalls handle found'

theorem Workflow.run_ne_skipped (w : Workflow) (handle : Handler σ) (o : Occurrence) (s : σ) :
    (w.run (Handler.recording handle) o ⟨s, []⟩).1 ≠ .skipped := by
  obtain ⟨outcome, calls, state, hperformed, hrun⟩ := performed_of_run w handle o s []
  rw [hrun]
  rintro rfl
  cases hperformed

namespace Dispatch

theorem sameUpToDetachment_share {host : Host ι σ} {reply : Action → Invocation → Reply ActionError}
    (hreply : host.handle.RepliesBy reply) (o : Occurrence) (conditions : Context) (workflow : Workflow)
    {w w' : World ι σ} (hw : w.engine.evaluator.Sound) (hw' : w'.engine.evaluator.Sound) :
    Share.SameUpToDetachment host.handle (share host .asDeclared o conditions workflow w)
      (share host .awaited o conditions workflow w') := by
  have hruns : ∀ s s', (workflow.run (Handler.recording host.handle) o ⟨s, []⟩).1 =
        (workflow.run (Handler.recording host.handle) o ⟨s', []⟩).1 ∧
      (workflow.run (Handler.recording host.handle) o ⟨s, []⟩).2.calls =
        (workflow.run (Handler.recording host.handle) o ⟨s', []⟩).2.calls :=
    Workflow.run_eq_of_repliesBy hreply hreply workflow o
  rw [share_eq host .asDeclared o conditions workflow hw, share_eq host .awaited o conditions workflow hw']
  cases happlies : workflow.applies conditions with
  | false =>
    constructor
    · rfl
    · rfl
    · intro _
      rfl
    · intro _ hne
      exact absurd rfl hne
    · intro found found'
      rfl
  | true =>
    cases hdetached : workflow.isDetached with
    | false =>
      constructor
      · rfl
      · simp [hruns w.outside w'.outside]
      · intro _
        exact (hruns w.outside w'.outside).1
      · intro hd
        exact absurd (hdetached.symm.trans hd) Bool.false_ne_true
      · intro found found'
        simpa [Share.allCalls] using (hruns w.outside w'.outside).2
    | true =>
      constructor
      · rfl
      · -- the one is detached, and a run is not skipped
        simp [Workflow.run_ne_skipped]
      · intro hd
        exact absurd (hd.symm.trans hdetached) Bool.false_ne_true
      · intro _ _
        rfl
      · intro found found'
        simpa [Share.allCalls, DetachedRun.run] using (hruns (found ⟨workflow, o⟩) w'.outside).2

/-! ### Workflows one after another -/

theorem forall₂_visits {host : Host ι σ} {reply : Action → Invocation → Reply ActionError}
    (hreply : host.handle.RepliesBy reply) (o : Occurrence) (conditions : Context) (workflows : List Workflow)
    {w w' : World ι σ} (hw : w.engine.evaluator.Sound) (hw' : w'.engine.evaluator.Sound) :
    List.Forall₂ (Share.SameUpToDetachment host.handle)
      ((visits host .asDeclared o conditions workflows w).map fun e =>
        share host .asDeclared o conditions e.1 e.2)
      ((visits host .awaited o conditions workflows w').map fun e =>
        share host .awaited o conditions e.1 e.2) := by
  induction workflows generalizing w w' with
  | nil => exact .nil
  | cons workflow rest ih =>
    have hnext := sound_visitOne hw host .asDeclared o conditions workflow
    have hnext' := sound_visitOne hw' host .awaited o conditions workflow
    exact .cons (sameUpToDetachment_share hreply o conditions workflow hw hw') (ih hnext hnext')

/-! ### Listeners -/

/-- What listeners reply when they are called one after another. -/
def replies (host : Host ι σ) (trigger : String) (event : Event) : List ι → World ι σ → List (Reply String)
  | [], _ => []
  | listener :: rest, w =>
    (host.hear listener trigger event w).1 ::
      replies host trigger event rest (host.hear listener trigger event w).2

theorem callListeners_eq_of_replies (host : Host ι σ) (trigger : String) (event : Event) (listeners : List ι)
    {w w' : World ι σ}
    (halike : replies host trigger event listeners w = replies host trigger event listeners w') :
    (callListeners host trigger event listeners w).1 = (callListeners host trigger event listeners w').1 := by
  induction listeners generalizing w w' with
  | nil => rfl
  | cons listener rest ih =>
    obtain ⟨hreply, hrest⟩ := List.cons.inj halike
    rw [callListeners_cons, callListeners_cons]
    dsimp only
    rw [hreply, ih hrest]

/-! ### Dispatches -/

theorem MadeUpOf.names_eq {host : Host ι σ} {delivery : Delivery} {trigger : String} {event : Event}
    {now : Instant} {w : World ι σ} {parts : List Share} (h : MadeUpOf host delivery trigger event now w parts) :
    (run host delivery trigger event now w).1.1.entries.map Report.Entry.name =
      (w.engine.index.matching trigger).map Workflow.name := by
  rw [h.entries_eq, ← h.workflows_eq, List.map_map, List.map_map]
  rfl

/-- A dispatch that does not wait, in the world `w`, and one that does, in the world `w'`. -/
structure AgreeUpToDetachment (host : Host ι σ) (trigger : String) (event : Event) (now : Instant)
    (w w' : World ι σ) : Prop where
  version_eq : (run host .asDeclared trigger event now w).1.1.version =
    (run host .awaited trigger event now w').1.1.version
  listenerFailures_eq : (run host .asDeclared trigger event now w).1.1.listenerFailures =
    (run host .awaited trigger event now w').1.1.listenerFailures
  names_eq : (run host .asDeclared trigger event now w).1.1.entries.map Report.Entry.name =
    (run host .awaited trigger event now w').1.1.entries.map Report.Entry.name
  emitted : MadeUpOf host .asDeclared trigger event now w (shares host .asDeclared trigger event now w)
  awaited : MadeUpOf host .awaited trigger event now w' (shares host .awaited trigger event now w')
  same_shares : List.Forall₂ (Share.SameUpToDetachment host.handle)
    (shares host .asDeclared trigger event now w) (shares host .awaited trigger event now w')

end Dispatch

/-- **Waiting changes nothing but what is detached.**  Let an event be dispatched from one engine without waiting, and
with waiting, whatever lies outside.  If the listeners reply the same in both, and the replies of the handler depend
on the action and the invocation alone, then both reports have the same version, the same number of failed listeners
and the same names; the same workflows are skipped; what is not detached ends the same; what is detached, and not
skipped, is reported as such by the dispatch that does not wait; and at the end every workflow has made the same
calls. -/
theorem agreeUpToDetachment_of_reaches {host : Host ι σ} (hhost : host.UsesOperations)
    {reply : Action → Invocation → Reply ActionError} (hreply : host.handle.RepliesBy reply) {e : Engine ι}
    (he : host.Reaches e) (s s' : σ) {trigger : String} {event : Event}
    (halike : Dispatch.replies host trigger event (e.listenersOf trigger) ⟨e, s⟩ =
      Dispatch.replies host trigger event (e.listenersOf trigger) ⟨e, s'⟩) (now : Instant) :
    Dispatch.AgreeUpToDetachment host trigger event now ⟨e, s⟩ ⟨e, s'⟩ := by
  have hemitted := Dispatch.madeUpOf_shares host .asDeclared trigger event now ⟨e, s⟩
  have hawaited := Dispatch.madeUpOf_shares host .awaited trigger event now ⟨e, s'⟩
  have hheard : ∀ s, (Dispatch.callListeners host trigger event (e.listenersOf trigger)
      ⟨e, s⟩).2.engine.evaluator.Sound := by
    intro s
    have hreached : host.Reaches (World.mk e s).engine := he
    exact hreached.sound_heard hhost trigger event
  constructor
  · rfl
  · exact Dispatch.callListeners_eq_of_replies host trigger event _ halike
  · exact hemitted.names_eq.trans hawaited.names_eq.symm
  · exact hemitted
  · exact hawaited
  · exact Dispatch.forall₂_visits hreply _ _ _ (hheard s) (hheard s')

/-- The engine has a listener that breaks down and workflows that are skipped, fail, or are detached: only the last
of them is reported differently. -/
theorem agreeUpToDetachment_of_reaches_unruly :
    Dispatch.AgreeUpToDetachment unruly "saved" default default
        ⟨(performAll unruly ⟨.fresh .deny 1, 0⟩ [.listen "saved" [], .reload crowded]).engine, 3⟩
        ⟨(performAll unruly ⟨.fresh .deny 1, 0⟩ [.listen "saved" [], .reload crowded]).engine, 8⟩ ∧
      (Dispatch.run unruly .asDeclared "saved" default default
        ⟨(performAll unruly ⟨.fresh .deny 1, 0⟩ [.listen "saved" [], .reload crowded]).engine, 3⟩
          ).1.1.entries.map Report.Entry.outcome =
        [.skipped, .failed 0 (.panicked "unplugged"), .failed 1 (.panicked "unplugged"), .detached] ∧
      (Dispatch.run unruly .awaited "saved" default default
        ⟨(performAll unruly ⟨.fresh .deny 1, 0⟩ [.listen "saved" [], .reload crowded]).engine, 8⟩
          ).1.1.entries.map Report.Entry.outcome =
        [.skipped, .failed 0 (.panicked "unplugged"), .failed 1 (.panicked "unplugged"), .completed 1] := by
  have hunruly : unruly.Reaches
      (performAll unruly ⟨.fresh .deny 1, 0⟩ [.listen "saved" [], .reload crowded]).engine :=
    ⟨_, _, _, _, rfl⟩
  refine ⟨agreeUpToDetachment_of_reaches usesOperations_unruly repliesBy_unruly hunruly 3 8 rfl default, ?_, ?_⟩
  · decide +kernel
  · decide +kernel

end RecordGate
