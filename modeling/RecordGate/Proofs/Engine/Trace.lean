import RecordGate.Proofs.Engine.Visits

/-!
# The trace of a dispatch

`Dispatch.visited` lists the workflows that a dispatch comes to, each with the world in which its condition is
asked; the entries of the report are theirs (`entries_run`).  Every call that a dispatch makes of the handler,
and every run that it starts, is one of a workflow of its trigger (`of_mem_calls`, `of_mem_started`).  All
this holds for both kinds of delivery.
-/

namespace RecordGate

variable {ι σ : Type}

/-! ### Runs -/

namespace Workflow

theorem Performed.of_mem {invoke : Action → Invocation} {actions : List Action} {outcome : Outcome}
    {calls : List Call} (h : Performed invoke actions outcome calls) {call : Call} (hcall : call ∈ calls) :
    call.action ∈ actions ∧ call.invocation = invoke call.action := by
  cases h with
  | completed =>
    obtain ⟨action, haction, rfl⟩ := List.mem_map.1 hcall
    exact ⟨haction, rfl⟩
  | @failed before after action reply error hactions hreply =>
    rw [hactions]
    rcases List.mem_append.1 hcall with hcall | hcall
    · obtain ⟨done, hdone, rfl⟩ := List.mem_map.1 hcall
      exact ⟨List.mem_append_left _ hdone, rfl⟩
    · obtain rfl := List.mem_singleton.1 hcall
      exact ⟨List.mem_append_right _ List.mem_cons_self, rfl⟩

theorem of_mem_calls_run {w : Workflow} {handle : Handler σ} {o : Occurrence} {s : Recorded σ} {call : Call}
    (hcall : call ∈ (w.run (Handler.recording handle) o s).2.calls) :
    call ∈ s.calls ∨ call.action ∈ w.recognized ∧ call.invocation = o.invocation w call.action := by
  obtain ⟨outcome, calls, state, hperformed, hrun⟩ := performed_of_run w handle o s.state s.calls
  have hrun' : w.run (Handler.recording handle) o s = (outcome, ⟨state, s.calls ++ calls⟩) := hrun
  rw [hrun'] at hcall
  rcases List.mem_append.1 hcall with hcall | hcall
  · exact .inl hcall
  · exact .inr (hperformed.of_mem hcall)

end Workflow

namespace Dispatch

/-! ### Visits -/

/-- The workflows that a visit comes to, each with the world in which it is visited. -/
def visits (host : Host ι σ) (delivery : Delivery) (o : Occurrence) (conditions : Context) :
    List Workflow → World ι σ → List (Workflow × World ι σ)
  | [], _ => []
  | workflow :: rest, w =>
    (workflow, w) ::
      visits host delivery o conditions rest (visitOne host delivery o conditions workflow w).2

/-- The workflows that a dispatch comes to. -/
def visited (host : Host ι σ) (delivery : Delivery) (trigger : String) (event : Event) (now : Instant)
    (w : World ι σ) : List (Workflow × World ι σ) :=
  visits host delivery ⟨trigger, event, event.templateRoot now⟩ event.conditionContext
    (w.engine.index.matching trigger)
    (callListeners host trigger event (w.engine.listenersOf trigger) w).2

theorem fst_visits (host : Host ι σ) (delivery : Delivery) (o : Occurrence) (conditions : Context)
    (workflows : List Workflow) (w : World ι σ) :
    (visits host delivery o conditions workflows w).map Prod.fst = workflows := by
  induction workflows generalizing w with
  | nil => rfl
  | cons workflow rest ih =>
    rw [visits, List.map_cons, ih]

section

variable {host : Host ι σ} {delivery : Delivery} {o : Occurrence} {conditions : Context}

theorem entries_visit (workflows : List Workflow) (w : World ι σ) :
    (visit host delivery o conditions workflows w).1.entries =
      (visits host delivery o conditions workflows w).map fun e =>
        ⟨e.1.name, (visitOne host delivery o conditions e.1 e.2).1.1⟩ := by
  induction workflows generalizing w with
  | nil => rfl
  | cons workflow rest ih =>
    rw [visit_cons, visits, List.map_cons, ← ih]
    rfl

theorem of_mem_visits {workflows : List Workflow} {w : World ι σ} {e : Workflow × World ι σ}
    (hsound : w.engine.evaluator.Sound) (he : e ∈ visits host delivery o conditions workflows w) :
    e.1 ∈ workflows ∧ e.2.engine.evaluator.Sound := by
  induction workflows generalizing w with
  | nil => cases he
  | cons workflow rest ih =>
    rcases List.mem_cons.1 he with rfl | he
    · exact ⟨List.mem_cons_self, hsound⟩
    · obtain ⟨hmem, hsound'⟩ := ih (sound_visitOne hsound host delivery o conditions workflow) he
      exact ⟨List.mem_cons_of_mem _ hmem, hsound'⟩

theorem of_mem_started_visit {workflows : List Workflow} {w : World ι σ} {d : DetachedRun}
    (hd : d ∈ (visit host delivery o conditions workflows w).1.started) :
    d.workflow ∈ workflows ∧ d.occurrence = o := by
  induction workflows generalizing w with
  | nil => cases hd
  | cons workflow rest ih =>
    rw [visit_cons] at hd
    rcases List.mem_append.1 hd with hd | hd
    · rcases visitOne_cases host delivery o conditions workflow w with h | h | h
      · rw [h] at hd
        cases hd
      · rw [h] at hd
        obtain rfl := List.mem_singleton.1 hd
        exact ⟨List.mem_cons_self, rfl⟩
      · rw [h] at hd
        cases hd
    · obtain ⟨hmem, ho⟩ := ih hd
      exact ⟨List.mem_cons_of_mem _ hmem, ho⟩

theorem of_mem_calls_visitOne {workflow : Workflow} {w : World ι (Recorded σ)} {call : Call}
    (hcall : call ∈ (visitOne host.recording delivery o conditions workflow w).2.outside.calls) :
    call ∈ w.outside.calls ∨
      call.action ∈ workflow.recognized ∧ call.invocation = o.invocation workflow call.action := by
  rcases visitOne_cases host.recording delivery o conditions workflow w with h | h | h
  · rw [h] at hcall
    exact .inl hcall
  · rw [h] at hcall
    exact .inl hcall
  · rw [h] at hcall
    exact Workflow.of_mem_calls_run hcall

theorem of_mem_calls_visit {workflows : List Workflow} {w : World ι (Recorded σ)} {call : Call}
    (hcall : call ∈ (visit host.recording delivery o conditions workflows w).2.outside.calls) :
    call ∈ w.outside.calls ∨ ∃ workflow ∈ workflows,
      call.action ∈ workflow.recognized ∧ call.invocation = o.invocation workflow call.action := by
  induction workflows generalizing w with
  | nil => exact .inl hcall
  | cons workflow rest ih =>
    rw [visit_cons] at hcall
    rcases ih hcall with hcall | ⟨other, hother, hmade⟩
    · rcases of_mem_calls_visitOne hcall with hcall | hmade
      · exact .inl hcall
      · exact .inr ⟨workflow, List.mem_cons_self, hmade⟩
    · exact .inr ⟨other, List.mem_cons_of_mem _ hother, hmade⟩

end

/-! ### Dispatches -/

section

variable {host : Host ι σ} {delivery : Delivery} {trigger : String} {event : Event} {now : Instant}
  {w : World ι σ}

theorem entries_run :
    (run host delivery trigger event now w).1.1.entries =
      (visited host delivery trigger event now w).map fun e =>
        ⟨e.1.name, (visitOne host delivery ⟨trigger, event, event.templateRoot now⟩ event.conditionContext
          e.1 e.2).1.1⟩ :=
  entries_visit _ _

theorem of_mem_started {d : DetachedRun} (hd : d ∈ (run host delivery trigger event now w).1.2) :
    d.workflow ∈ w.engine.index.matching trigger ∧
      d.occurrence = ⟨trigger, event, event.templateRoot now⟩ :=
  of_mem_started_visit hd

/-- A call of the handler is one of an action of a workflow of the trigger, with its parameters filled in. -/
theorem of_mem_calls {call : Call} (hcall : call ∈ calls host delivery trigger event now w) :
    ∃ workflow ∈ w.engine.index.matching trigger, call.action ∈ workflow.recognized ∧
      call.invocation =
        Occurrence.invocation ⟨trigger, event, event.templateRoot now⟩ workflow call.action := by
  rw [calls, run_eq] at hcall
  rcases of_mem_calls_visit hcall with hcall | hmade
  · -- listeners make no calls
    rw [callListeners_recording] at hcall
    cases hcall
  · exact hmade

end

end Dispatch

end RecordGate
