import RecordGate.Proofs.Engine.Trace

/-!
# The share of a workflow in a dispatch

What a dispatch does about one of its workflows is the share of that workflow: how it ended, what was started
without waiting, and the calls of the handler.  A dispatch is made up of the shares of the workflows of its
trigger, in their order, and of nothing else (`madeUpOf_shares`).

The world in which a workflow is visited enters its share at two places only.  The evaluator is asked whether the
condition holds, which a sound one says from the condition alone, and the handler is called (`share_eq`).

The share is defined by a visit with a host that records calls, starting from an empty record.  That a dispatch is made
up of shares is then an induction along its workflows, in which the worlds are those that `Dispatch.visits` lists
(`started_visit`, `calls_visit`).
-/

namespace RecordGate

variable {ι σ : Type}

/-- What a dispatch does about one workflow. -/
structure Share where
  workflow : Workflow
  outcome : Outcome
  started : List DetachedRun
  calls : List Call

/-- The world with an empty record. -/
def World.recorded (w : World ι σ) : World ι (Recorded σ) := ⟨w.engine, ⟨w.outside, []⟩⟩

namespace Dispatch

/-- The share of a workflow that is visited in the world `w`. -/
def share (host : Host ι σ) (delivery : Delivery) (o : Occurrence) (conditions : Context)
    (workflow : Workflow) (w : World ι σ) : Share :=
  let visited := visitOne host.recording delivery o conditions workflow w.recorded
  ⟨workflow, visited.1.1, visited.1.2, visited.2.outside.calls⟩

/-- The shares of the workflows that a dispatch comes to. -/
def shares (host : Host ι σ) (delivery : Delivery) (trigger : String) (event : Event) (now : Instant)
    (w : World ι σ) : List Share :=
  (visited host delivery trigger event now w).map fun e =>
    share host delivery ⟨trigger, event, event.templateRoot now⟩ event.conditionContext e.1 e.2

/-- A dispatch consists of these shares: the entries of its report are theirs, one for each, and the runs that it
starts and the calls that it makes are theirs put end to end. -/
structure MadeUpOf (host : Host ι σ) (delivery : Delivery) (trigger : String) (event : Event) (now : Instant)
    (w : World ι σ) (parts : List Share) : Prop where
  workflows_eq : parts.map Share.workflow = w.engine.index.matching trigger
  entries_eq : (run host delivery trigger event now w).1.1.entries =
    parts.map fun part => ⟨part.workflow.name, part.outcome⟩
  started_eq : (run host delivery trigger event now w).1.2 = parts.flatMap Share.started
  calls_eq : calls host delivery trigger event now w = parts.flatMap Share.calls

/-! ### One workflow -/

section

variable {host : Host ι σ} {delivery : Delivery} {o : Occurrence} {conditions : Context}
  {workflow : Workflow} {w : World ι σ}

theorem outcome_share :
    (share host delivery o conditions workflow w).outcome =
      (visitOne host delivery o conditions workflow w).1.1 :=
  congrArg Prod.fst (visitOne_recording host delivery o conditions workflow w.recorded).1

theorem started_share :
    (share host delivery o conditions workflow w).started =
      (visitOne host delivery o conditions workflow w).1.2 :=
  congrArg Prod.snd (visitOne_recording host delivery o conditions workflow w.recorded).1

theorem calls_visitOne (host : Host ι σ) (delivery : Delivery) (o : Occurrence) (conditions : Context)
    (workflow : Workflow) (w : World ι (Recorded σ)) :
    (visitOne host.recording delivery o conditions workflow w).2.outside.calls =
      w.outside.calls ++ (share host delivery o conditions workflow w.forget).calls := by
  unfold share
  cases h : (Workflow.meets workflow.condition conditions w.engine.evaluator).1 with
  | false =>
    rw [visitOne_of_skipped h, visitOne_of_skipped (w := w.forget.recorded) h]
    exact (List.append_nil _).symm
  | true =>
    cases hd : (workflow.isDetached && delivery == .asDeclared) with
    | true =>
      rw [visitOne_of_detached h hd, visitOne_of_detached (w := w.forget.recorded) h hd]
      exact (List.append_nil _).symm
    | false =>
      have hrun := Workflow.perform_recording_append host.handle (o.invocation workflow) 0
        workflow.recognized w.outside.state w.outside.calls []
      rw [List.append_nil] at hrun
      rw [visitOne_of_run h hd, visitOne_of_run (w := w.forget.recorded) h hd]
      exact congrArg (fun r : Outcome × Recorded σ => r.2.calls) hrun

end

end Dispatch

/-- Whether an event meets the condition of a workflow, as it is said without a memory. -/
def Workflow.applies (workflow : Workflow) (conditions : Context) : Bool :=
  workflow.condition.all fun rule => (Expression.evaluate rule conditions).passed

namespace Dispatch

/-- **A share depends on the workflow, the occurrence and the handler.**  Of the evaluator that is asked it only
matters that it is sound. -/
theorem share_eq (host : Host ι σ) (delivery : Delivery) (o : Occurrence) (conditions : Context)
    (workflow : Workflow) {w : World ι σ} (hsound : w.engine.evaluator.Sound) :
    share host delivery o conditions workflow w =
      if workflow.applies conditions then
        if workflow.isDetached && delivery == .asDeclared then
          ⟨workflow, .detached, [⟨workflow, o⟩], []⟩
        else
          let ran := workflow.run (Handler.recording host.handle) o ⟨w.outside, []⟩
          ⟨workflow, ran.1, [], ran.2.calls⟩
      else ⟨workflow, .skipped, [], []⟩ := by
  have hmeets := (Workflow.answers_meets workflow.condition conditions _ hsound).1
  change _ = workflow.applies conditions at hmeets
  rw [← hmeets]
  unfold share
  cases h : (Workflow.meets workflow.condition conditions w.engine.evaluator).1 with
  | false =>
    rw [visitOne_of_skipped (w := w.recorded) h]
    rfl
  | true =>
    cases hd : (workflow.isDetached && delivery == .asDeclared) with
    | true =>
      rw [visitOne_of_detached (w := w.recorded) h hd]
      rfl
    | false =>
      rw [visitOne_of_run (w := w.recorded) h hd]
      rfl

/-! ### Workflows one after another -/

section

variable {host : Host ι σ} {delivery : Delivery} {o : Occurrence} {conditions : Context}

theorem started_visit (workflows : List Workflow) (w : World ι σ) :
    (visit host delivery o conditions workflows w).1.started =
      (visits host delivery o conditions workflows w).flatMap fun e =>
        (share host delivery o conditions e.1 e.2).started := by
  induction workflows generalizing w with
  | nil => rfl
  | cons workflow rest ih =>
    rw [visit_cons, visits, List.flatMap_cons, ← ih, started_share]
    rfl

theorem calls_visit (workflows : List Workflow) (w : World ι (Recorded σ)) :
    (visit host.recording delivery o conditions workflows w).2.outside.calls =
      w.outside.calls ++ (visits host delivery o conditions workflows w.forget).flatMap fun e =>
        (share host delivery o conditions e.1 e.2).calls := by
  induction workflows generalizing w with
  | nil => exact (List.append_nil _).symm
  | cons workflow rest ih =>
    rw [visit_cons, visits, List.flatMap_cons, ← List.append_assoc, ← calls_visitOne,
      ← (visitOne_recording host delivery o conditions workflow w).2]
    exact ih _

end

/-- **A dispatch is made up of the shares of its workflows.** -/
theorem madeUpOf_shares (host : Host ι σ) (delivery : Delivery) (trigger : String) (event : Event)
    (now : Instant) (w : World ι σ) :
    MadeUpOf host delivery trigger event now w (shares host delivery trigger event now w) where
  workflows_eq := by
    rw [shares, List.map_map]
    exact fst_visits host delivery _ _ _ _
  entries_eq := by
    rw [entries_run, shares, List.map_map]
    apply List.map_congr_left
    intro e _
    rw [Function.comp_apply, outcome_share]
    rfl
  started_eq := by
    rw [run_eq, shares, List.flatMap_map]
    exact started_visit _ _
  calls_eq := by
    rw [calls, run_eq, callListeners_recording, shares, List.flatMap_map]
    exact calls_visit _ _

/-- A workflow of the trigger has its share at its position, from a world in which the evaluator is sound if the
listeners left it so. -/
theorem getElem?_shares {host : Host ι σ} {trigger : String} {event : Event} {w : World ι σ}
    (hheard : (callListeners host trigger event (w.engine.listenersOf trigger) w).2.engine.evaluator.Sound)
    (delivery : Delivery) (now : Instant) {i : Nat} {workflow : Workflow}
    (hworkflow : (w.engine.index.matching trigger)[i]? = some workflow) :
    ∃ world : World ι σ, world.engine.evaluator.Sound ∧
      (shares host delivery trigger event now w)[i]? =
        some (share host delivery ⟨trigger, event, event.templateRoot now⟩ event.conditionContext
          workflow world) := by
  have hfst : (visited host delivery trigger event now w).map Prod.fst = w.engine.index.matching trigger :=
    fst_visits host delivery _ _ _ _
  rw [← hfst, List.getElem?_map] at hworkflow
  obtain ⟨⟨other, world⟩, hvisited, rfl⟩ := Option.map_eq_some_iff.1 hworkflow
  obtain ⟨-, hsound⟩ := of_mem_visits hheard (List.mem_of_getElem? hvisited)
  refine ⟨world, hsound, ?_⟩
  rw [shares, List.getElem?_map, hvisited]
  rfl

end Dispatch

/-! ### Engines after a history -/

/-- Some history of the host, from some engine in which nothing is installed, ends with this engine. -/
def Host.Reaches (host : Host ι σ) (e : Engine ι) : Prop :=
  ∃ missing capacity outside ops,
    (Operation.performAll host ⟨.fresh missing capacity, outside⟩ ops).engine = e

theorem Host.Reaches.ready {host : Host ι σ} {e : Engine ι} (h : host.Reaches e)
    (hhost : host.UsesOperations) : e.Ready := by
  obtain ⟨missing, capacity, outside, ops, rfl⟩ := h
  obtain ⟨ms, hms⟩ := hhost.exists_accepts ops ⟨.fresh missing capacity, outside⟩
  exact (Engine.Ready.fresh missing capacity).performAll hms

theorem Host.Reaches.sound_heard {host : Host ι σ} {w : World ι σ} (h : host.Reaches w.engine)
    (hhost : host.UsesOperations) (trigger : String) (event : Event) :
    (Dispatch.callListeners host trigger event (w.engine.listenersOf trigger) w).2.engine.evaluator.Sound := by
  obtain ⟨ops, ms, hops, hms⟩ := hhost.callListeners trigger event (w.engine.listenersOf trigger) w
  have hready : (Operation.performAll host w ops).engine.Ready := (h.ready hhost).performAll hms
  rw [hops] at hready
  exact hready.sound

end RecordGate
