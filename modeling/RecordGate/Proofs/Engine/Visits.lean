import RecordGate.Proofs.Engine.History
import RecordGate.Proofs.Workflow.Index

/-!
# What a dispatch visits

A dispatch that waits visits the workflows of its trigger one after another.  Whatever the handler replies,
it has one entry for each of them, in the order of their declaration, and its calls are theirs put end to
end: none for a workflow whose condition does not hold, and for any other the calls of its recognized
actions up to the first that is not done.  A failure ends its own workflow and no other.

To speak of the calls, the handler of the host is made to record them.  The recording host does what the
host does: `run_recording`.

Main statement: `visitedAll_of_run`.
-/

namespace RecordGate

variable {ι κ σ τ : Type}

/-! ### Worlds that are alike -/

/-- Two worlds whose evaluators remember the same, with related states outside. -/
structure World.Alike (R : σ → τ → Prop) (w : World ι σ) (w' : World κ τ) : Prop where
  evaluator_eq : w.engine.evaluator = w'.engine.evaluator
  outside : R w.outside w'.outside

namespace Dispatch

section

variable {R : σ → τ → Prop} {host : Host ι σ} {other : Host κ τ} {w : World ι σ} {w' : World κ τ}

theorem visitOne_alike (h : Handler.Alike R host.handle other.handle) (hw : World.Alike R w w')
    (delivery : Delivery) (o : Occurrence) (conditions : Context) (workflow : Workflow) :
    (visitOne host delivery o conditions workflow w).1 = (visitOne other delivery o conditions workflow w').1 ∧
      World.Alike R (visitOne host delivery o conditions workflow w).2
        (visitOne other delivery o conditions workflow w').2 := by
  have hasked : (asked conditions workflow w).engine.evaluator =
      (asked conditions workflow w').engine.evaluator :=
    congrArg (fun e => (Workflow.meets workflow.condition conditions e).2) hw.evaluator_eq
  cases hmeets : (Workflow.meets workflow.condition conditions w'.engine.evaluator).1 with
  | false =>
    rw [visitOne_of_skipped (hw.evaluator_eq ▸ hmeets), visitOne_of_skipped hmeets]
    exact ⟨rfl, hasked, hw.outside⟩
  | true =>
    cases hd : (workflow.isDetached && delivery == .asDeclared) with
    | true =>
      rw [visitOne_of_detached (hw.evaluator_eq ▸ hmeets) hd, visitOne_of_detached hmeets hd]
      exact ⟨rfl, hasked, hw.outside⟩
    | false =>
      obtain ⟨houtcome, houtside⟩ :=
        Workflow.perform_alike h (o.invocation workflow) 0 workflow.recognized hw.outside
      rw [visitOne_of_run (hw.evaluator_eq ▸ hmeets) hd, visitOne_of_run hmeets hd]
      refine ⟨?_, hasked, houtside⟩
      exact congrArg (fun outcome => (outcome, ([] : List DetachedRun))) houtcome

/-- **Workflows are visited alike in worlds that are alike.** -/
theorem visit_alike (h : Handler.Alike R host.handle other.handle) (hw : World.Alike R w w')
    (delivery : Delivery) (o : Occurrence) (conditions : Context) (workflows : List Workflow) :
    (visit host delivery o conditions workflows w).1 = (visit other delivery o conditions workflows w').1 ∧
      World.Alike R (visit host delivery o conditions workflows w).2
        (visit other delivery o conditions workflows w').2 := by
  induction workflows generalizing w w' with
  | nil => exact ⟨rfl, hw⟩
  | cons workflow rest ih =>
    obtain ⟨hfirst, hnext⟩ := visitOne_alike h hw delivery o conditions workflow
    obtain ⟨hrest, hlast⟩ := ih hnext
    rw [visit_cons, visit_cons]
    dsimp only
    rw [hfirst, hrest]
    exact ⟨rfl, hlast⟩

end

end Dispatch

/-! ### Hosts that record calls -/

/-- The world without the record. -/
def World.forget (w : World ι (Recorded σ)) : World ι σ := ⟨w.engine, w.outside.state⟩

/-- A world in the place of another, with the record of the other. -/
def World.resume (w : World ι (Recorded σ)) (after : World ι σ) : World ι (Recorded σ) :=
  ⟨after.engine, ⟨after.outside, w.outside.calls⟩⟩

/-- The host that does the same and records the calls of its handler. -/
def Host.recording (host : Host ι σ) : Host ι (Recorded σ) where
  handle := Handler.recording host.handle
  hear listener trigger event w :=
    ((host.hear listener trigger event w.forget).1,
      w.resume (host.hear listener trigger event w.forget).2)

theorem Host.alike_recording (host : Host ι σ) :
    Handler.Alike (fun r s => r.state = s) host.recording.handle host.handle :=
  host.handle.alike_recording

namespace Dispatch

theorem callListeners_recording (host : Host ι σ) (trigger : String) (event : Event)
    (listeners : List ι) (w : World ι (Recorded σ)) :
    callListeners host.recording trigger event listeners w =
      ((callListeners host trigger event listeners w.forget).1,
        w.resume (callListeners host trigger event listeners w.forget).2) := by
  induction listeners generalizing w with
  | nil => rfl
  | cons listener rest ih =>
    have hhear : host.recording.hear listener trigger event w =
      ((host.hear listener trigger event w.forget).1,
        w.resume (host.hear listener trigger event w.forget).2) := rfl
    rw [callListeners_cons, callListeners_cons, hhear]
    dsimp only
    rw [ih]
    rfl

theorem visitOne_recording (host : Host ι σ) (delivery : Delivery) (o : Occurrence)
    (conditions : Context) (workflow : Workflow) (w : World ι (Recorded σ)) :
    (visitOne host.recording delivery o conditions workflow w).1 =
        (visitOne host delivery o conditions workflow w.forget).1 ∧
      (visitOne host.recording delivery o conditions workflow w).2.forget =
        (visitOne host delivery o conditions workflow w.forget).2 := by
  have hw : World.Alike (fun r s => r.state = s) w w.forget := ⟨rfl, rfl⟩
  obtain ⟨hresult, -, houtside⟩ := visitOne_alike host.alike_recording hw delivery o conditions workflow
  refine ⟨hresult, ?_⟩
  have hengine := visitOne_engine host.recording delivery o conditions workflow w
  have hengine' := visitOne_engine host delivery o conditions workflow w.forget
  exact congrArg₂ World.mk (hengine.trans hengine'.symm) houtside

theorem visit_recording (host : Host ι σ) (delivery : Delivery) (o : Occurrence)
    (conditions : Context) (workflows : List Workflow) (w : World ι (Recorded σ)) :
    (visit host.recording delivery o conditions workflows w).1 =
        (visit host delivery o conditions workflows w.forget).1 ∧
      (visit host.recording delivery o conditions workflows w).2.forget =
        (visit host delivery o conditions workflows w.forget).2 := by
  have hw : World.Alike (fun r s => r.state = s) w w.forget := ⟨rfl, rfl⟩
  obtain ⟨hresult, hevaluator, houtside⟩ :=
    visit_alike host.alike_recording hw delivery o conditions workflows
  refine ⟨hresult, ?_⟩
  have hengine : (visit host.recording delivery o conditions workflows w).2.engine =
      (visit host delivery o conditions workflows w.forget).2.engine := by
    rw [visit_engine, visit_engine host, hevaluator]
    rfl
  exact congrArg₂ World.mk hengine houtside

theorem run_recording (host : Host ι σ) (delivery : Delivery) (trigger : String) (event : Event)
    (now : Instant) (w : World ι (Recorded σ)) :
    (run host.recording delivery trigger event now w).1 =
        (run host delivery trigger event now w.forget).1 ∧
      (run host.recording delivery trigger event now w).2.forget =
        (run host delivery trigger event now w.forget).2 := by
  rw [run_eq, run_eq, callListeners_recording]
  dsimp only
  obtain ⟨hvisited, hworld⟩ := visit_recording host delivery ⟨trigger, event, event.templateRoot now⟩
    event.conditionContext (w.engine.index.matching trigger)
    (w.resume (callListeners host trigger event (w.engine.listenersOf trigger) w.forget).2)
  rw [hvisited, hworld]
  exact ⟨rfl, rfl⟩

/-- The calls that a dispatch makes of the handler, in their order. -/
def calls (host : Host ι σ) (delivery : Delivery) (trigger : String) (event : Event) (now : Instant)
    (w : World ι σ) : List Call :=
  (run host.recording delivery trigger event now ⟨w.engine, ⟨w.outside, []⟩⟩).2.outside.calls

end Dispatch

/-! ### What a visit does -/

/-- How a workflow ends when an event is dispatched under its trigger, with its calls of the handler. -/
inductive Visited (trigger : String) (event : Event) (now : Instant) (d : WorkflowDefinition) :
    Outcome → List Call → Prop where
  | skipped {rule : String} (hcondition : d.condition = some rule)
      (hrule : (Expression.evaluate rule event.conditionContext).passed = false) :
      Visited trigger event now d .skipped []
  | ran {outcome : Outcome} {calls : List Call}
      (hcondition : ∀ rule, d.condition = some rule →
        (Expression.evaluate rule event.conditionContext).passed = true)
      (hperformed : Workflow.Performed
        (fun action => ⟨trigger, d.name, event,
          ((action.params?).map (Template.fillValue (event.templateRoot now))).getD .null⟩)
        ((d.actions.map Action.ofSpec).filter Action.isRecognized) outcome calls) :
      Visited trigger event now d outcome calls

/-- The entries of workflows in their order, and their calls put end to end. -/
inductive VisitedAll (trigger : String) (event : Event) (now : Instant) :
    List WorkflowDefinition → List Report.Entry → List Call → Prop where
  | nil : VisitedAll trigger event now [] [] []
  | cons {d : WorkflowDefinition} {outcome : Outcome} {calls : List Call}
      {rest : List WorkflowDefinition} {entries : List Report.Entry} {others : List Call}
      (hfirst : Visited trigger event now d outcome calls)
      (hrest : VisitedAll trigger event now rest entries others) :
      VisitedAll trigger event now (d :: rest) (⟨d.name, outcome⟩ :: entries) (calls ++ others)

namespace Dispatch

theorem visited_of_visitOne (host : Host ι σ) (trigger : String) (event : Event) (now : Instant)
    (d : WorkflowDefinition) (w : World ι (Recorded σ)) (hsound : w.engine.evaluator.Sound) :
    ∃ calls,
      Visited trigger event now d
        (visitOne host.recording .awaited ⟨trigger, event, event.templateRoot now⟩
          event.conditionContext (.ofDefinition d) w).1.1 calls ∧
      (visitOne host.recording .awaited ⟨trigger, event, event.templateRoot now⟩
        event.conditionContext (.ofDefinition d) w).2.outside.calls = w.outside.calls ++ calls := by
  have hmeets := (Workflow.answers_meets d.condition event.conditionContext _ hsound).1
  cases h : (Workflow.meets (Workflow.ofDefinition d).condition event.conditionContext
    w.engine.evaluator).1 with
  | false =>
    rw [visitOne_of_skipped h]
    rw [show (Workflow.meets d.condition _ _).1 = false from h] at hmeets
    cases hcondition : d.condition with
    | none => simp [hcondition] at hmeets
    | some rule =>
      simp only [hcondition, Option.all_some] at hmeets
      exact ⟨[], .skipped hcondition hmeets.symm, by simp [asked]⟩
  | true =>
    rw [visitOne_of_run h (by simp)]
    rw [show (Workflow.meets d.condition _ _).1 = true from h] at hmeets
    obtain ⟨outcome, calls, state, hperformed, hrun⟩ :=
      Workflow.performed_of_run (.ofDefinition d) host.handle ⟨trigger, event, event.templateRoot now⟩
        w.outside.state w.outside.calls
    have hrun' : (Workflow.ofDefinition d).run host.recording.handle
        ⟨trigger, event, event.templateRoot now⟩ w.outside =
          (outcome, ⟨state, w.outside.calls ++ calls⟩) := hrun
    rw [hrun']
    refine ⟨calls, .ran ?_ hperformed, rfl⟩
    intro rule hcondition
    simpa [hcondition] using hmeets.symm

theorem visitedAll_of_visit (host : Host ι σ) (trigger : String) (event : Event) (now : Instant)
    (definitions : List WorkflowDefinition) (w : World ι (Recorded σ)) (hsound : w.engine.evaluator.Sound) :
    ∃ calls,
      VisitedAll trigger event now definitions
        (visit host.recording .awaited ⟨trigger, event, event.templateRoot now⟩
          event.conditionContext (definitions.map .ofDefinition) w).1.entries calls ∧
      (visit host.recording .awaited ⟨trigger, event, event.templateRoot now⟩
        event.conditionContext (definitions.map .ofDefinition) w).2.outside.calls =
          w.outside.calls ++ calls := by
  induction definitions generalizing w with
  | nil => exact ⟨[], .nil, (List.append_nil _).symm⟩
  | cons d rest ih =>
    obtain ⟨calls, hfirst, hcalls⟩ := visited_of_visitOne host trigger event now d w hsound
    obtain ⟨others, hrest, hothers⟩ := ih _ (sound_visitOne hsound host.recording .awaited _ _ (.ofDefinition d))
    rw [List.map_cons, visit_cons]
    refine ⟨calls ++ others, .cons hfirst hrest, ?_⟩
    rw [hothers, hcalls, List.append_assoc]

theorem visitedAll_of_sound (host : Host ι σ) (trigger : String) (event : Event) (now : Instant)
    {w : World ι σ} {version : Nat} {definitions : List WorkflowDefinition}
    (hindex : w.engine.index = .build version definitions)
    (hsound : (callListeners host trigger event (w.engine.listenersOf trigger)
      w).2.engine.evaluator.Sound) :
    VisitedAll trigger event now (definitions.filter (·.trigger = trigger))
      (run host .awaited trigger event now w).1.1.entries
      (calls host .awaited trigger event now w) := by
  have hreport := (run_recording host .awaited trigger event now ⟨w.engine, ⟨w.outside, []⟩⟩).1
  obtain ⟨cs, hvisited, hcs⟩ := visitedAll_of_visit host trigger event now
    (definitions.filter (·.trigger = trigger))
    (World.resume ⟨w.engine, ⟨w.outside, []⟩⟩
      (callListeners host trigger event (w.engine.listenersOf trigger) w).2) hsound
  rw [← WorkflowIndex.matching_build_eq version, ← hindex] at hvisited hcs
  have hentries := congrArg (fun r : Report × List DetachedRun => r.1.entries) hreport
  have hcalls : calls host .awaited trigger event now w = cs := by
    rw [calls, run_eq, callListeners_recording]
    exact hcs
  rw [run_eq host.recording, callListeners_recording] at hentries
  rw [hcalls]
  exact hentries ▸ hvisited

end Dispatch

/-! ### Dispatches after a history -/

/-- An engine whose evaluator is sound and whose index was built from a list of definitions. -/
structure Engine.Ready (e : Engine ι) : Prop where
  sound : e.evaluator.Sound
  built : ∃ version definitions, e.index = .build version definitions

namespace Engine.Ready

theorem fresh (missing : MissingRule) (capacity : Nat) :
    Ready (.fresh missing capacity : Engine ι) :=
  ⟨Evaluator.sound_ofCapacity capacity, 0, [], rfl⟩

theorem invariant : Invariant fun _ (e : Engine ι) => Ready e where
  sound h := h.sound
  evaluator h he := ⟨he, h.built⟩
  install h _ := ⟨h.sound, _, _, rfl⟩
  reload h := ⟨h.sound, _, _, rfl⟩
  listen h := ⟨h.sound, h.built⟩

theorem performAll {host : Host ι σ} {w : World ι σ} {ops : List (Operation ι σ)}
    {ms : List Manifest} (h : w.engine.Ready) (hms : Accepts host w ops ms) :
    (Operation.performAll host w ops).engine.Ready :=
  invariant.performAll hms none h

end Engine.Ready

/-- **A dispatch that waits visits every workflow of its trigger.**  After any history some list of
workflows is installed, and whichever list it is, the report has one entry for each workflow that the list
declares with the trigger, in that order, and the handler gets the calls of these workflows end to end. -/
theorem visitedAll_of_run {host : Host ι σ} (hhost : host.UsesOperations) (missing : MissingRule)
    (capacity : Nat) (outside : σ) (ops : List (Operation ι σ)) (trigger : String) (event : Event)
    (now : Instant) :
    (∃ version definitions,
      (Operation.performAll host ⟨.fresh missing capacity, outside⟩ ops).engine.index =
        .build version definitions) ∧
    ∀ version definitions,
      (Operation.performAll host ⟨.fresh missing capacity, outside⟩ ops).engine.index =
        .build version definitions →
      VisitedAll trigger event now (definitions.filter (·.trigger = trigger))
        (Dispatch.run host .awaited trigger event now
          (Operation.performAll host ⟨.fresh missing capacity, outside⟩ ops)).1.1.entries
        (Dispatch.calls host .awaited trigger event now
          (Operation.performAll host ⟨.fresh missing capacity, outside⟩ ops)) := by
  obtain ⟨ms, hms⟩ := hhost.exists_accepts ops ⟨.fresh missing capacity, outside⟩
  have hready := Engine.Ready.performAll (.fresh missing capacity) hms
  generalize Operation.performAll host ⟨.fresh missing capacity, outside⟩ ops = w at hready ⊢
  refine ⟨hready.built, fun version definitions hindex => ?_⟩
  -- the listeners are called first, and leave an evaluator that is sound
  obtain ⟨inner, ns, hinner, hns⟩ :=
    hhost.callListeners trigger event (w.engine.listenersOf trigger) w
  have hheard := hready.performAll hns
  rw [hinner] at hheard
  exact Dispatch.visitedAll_of_sound host trigger event now hindex hheard.sound

/-! ### A handler that breaks down -/

/-- A host whose handler is done once and then breaks down; it has no listeners. -/
def oneShot : Host Empty Nat where
  handle _ _ n := (if n = 0 then .done else .panicked "spent", n + 1)
  hear listener := nomatch listener

theorem usesOperations_oneShot : oneShot.UsesOperations := fun listener => nomatch listener

/-- A workflow of three actions that are recognized and one that is not. -/
def audit : WorkflowDefinition :=
  ⟨"audit", "saved", none, [.tag "log", .tag "unknown", .tag "updateStats", .tag "log"], false⟩

/-- Of three recognized actions the second breaks down: two calls are made, and one action is counted. -/
theorem visitedAll_of_run_oneShot :
    ∃ calls, VisitedAll "saved" default default [audit]
      [⟨"audit", .failed 1 (.panicked "spent")⟩] calls ∧ calls.length = 2 := by
  have h := (visitedAll_of_run usesOperations_oneShot .deny 0 0 [.reload [audit]] "saved" default
    default).2 1 [audit] rfl
  exact ⟨_, h, rfl⟩

end RecordGate
