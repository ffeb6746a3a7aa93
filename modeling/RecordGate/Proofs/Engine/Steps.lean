import RecordGate.Engine.Dispatch

/-!
# The steps of a dispatch

A dispatch is made of calls of listeners and visits of workflows.  Each of them takes a world to the next,
and these are the equations of one step.  A visit changes of the engine what its evaluator remembers.

`visitOne_cases` says once what a visit can be: skipped because the condition does not hold, started without waiting,
or run to its end.  Whatever is claimed of all visits is shown by these three cases, and of all dispatches by `run_eq`
and induction along the listeners and the workflows; nothing else opens the definitions.
-/

namespace RecordGate.Dispatch

variable {ι σ : Type}

/-! ### Listeners -/

theorem callListeners_cons (host : Host ι σ) (trigger : String) (event : Event)
    (listener : ι) (rest : List ι) (w : World ι σ) :
    callListeners host trigger event (listener :: rest) w =
      let heard := host.hear listener trigger event w
      let others := callListeners host trigger event rest heard.2
      (match heard.1 with
        | .done => others.1
        | _ => others.1 + 1,
        others.2) := by
  rw [callListeners]
  rcases host.hear listener trigger event w with ⟨reply, heard⟩
  cases reply <;> rfl

/-! ### Visits -/

section

variable {host : Host ι σ} {delivery : Delivery} {o : Occurrence} {conditions : Context}
  {workflow : Workflow} {w : World ι σ}

/-- The world after a workflow's condition has been asked. -/
def asked (conditions : Context) (workflow : Workflow) (w : World ι σ) : World ι σ :=
  { w with engine := { w.engine with
      evaluator := (Workflow.meets workflow.condition conditions w.engine.evaluator).2 } }

theorem visitOne_of_skipped
    (h : (Workflow.meets workflow.condition conditions w.engine.evaluator).1 = false) :
    visitOne host delivery o conditions workflow w =
      ((.skipped, []), asked conditions workflow w) := by
  unfold visitOne
  rcases hm : Workflow.meets workflow.condition conditions w.engine.evaluator with ⟨runs, evaluator⟩
  rw [hm] at h
  obtain rfl : runs = false := h
  simp [asked, hm]

theorem visitOne_of_detached
    (h : (Workflow.meets workflow.condition conditions w.engine.evaluator).1 = true)
    (hd : (workflow.isDetached && delivery == .asDeclared) = true) :
    visitOne host delivery o conditions workflow w =
      ((.detached, [⟨workflow, o⟩]), asked conditions workflow w) := by
  unfold visitOne
  rcases hm : Workflow.meets workflow.condition conditions w.engine.evaluator with ⟨runs, evaluator⟩
  rw [hm] at h
  obtain rfl : runs = true := h
  simp [asked, hm, hd]

theorem visitOne_of_run
    (h : (Workflow.meets workflow.condition conditions w.engine.evaluator).1 = true)
    (hd : (workflow.isDetached && delivery == .asDeclared) = false) :
    visitOne host delivery o conditions workflow w =
      (((workflow.run host.handle o w.outside).1, []),
        { asked conditions workflow w with outside := (workflow.run host.handle o w.outside).2 }) := by
  unfold visitOne
  rcases hm : Workflow.meets workflow.condition conditions w.engine.evaluator with ⟨runs, evaluator⟩
  rw [hm] at h
  obtain rfl : runs = true := h
  simp [asked, hm, hd]

end

theorem visitOne_cases (host : Host ι σ) (delivery : Delivery) (o : Occurrence) (conditions : Context)
    (workflow : Workflow) (w : World ι σ) :
    visitOne host delivery o conditions workflow w = ((.skipped, []), asked conditions workflow w) ∨
      visitOne host delivery o conditions workflow w =
        ((.detached, [⟨workflow, o⟩]), asked conditions workflow w) ∨
      visitOne host delivery o conditions workflow w =
        (((workflow.run host.handle o w.outside).1, []),
          { asked conditions workflow w with outside := (workflow.run host.handle o w.outside).2 }) := by
  cases h : (Workflow.meets workflow.condition conditions w.engine.evaluator).1 with
  | false => exact .inl (visitOne_of_skipped h)
  | true =>
    cases hd : (workflow.isDetached && delivery == .asDeclared) with
    | true => exact .inr (.inl (visitOne_of_detached h hd))
    | false => exact .inr (.inr (visitOne_of_run h hd))

theorem visitOne_engine (host : Host ι σ) (delivery : Delivery) (o : Occurrence)
    (conditions : Context) (workflow : Workflow) (w : World ι σ) :
    (visitOne host delivery o conditions workflow w).2.engine =
      (asked conditions workflow w).engine := by
  rcases visitOne_cases host delivery o conditions workflow w with h | h | h
  · rw [h]
  · rw [h]
  · rw [h]

theorem visit_cons (host : Host ι σ) (delivery : Delivery) (o : Occurrence) (conditions : Context)
    (workflow : Workflow) (rest : List Workflow) (w : World ι σ) :
    visit host delivery o conditions (workflow :: rest) w =
      let first := visitOne host delivery o conditions workflow w
      let others := visit host delivery o conditions rest first.2
      (others.1.add workflow.name first.1.1 first.1.2, others.2) := rfl

theorem visit_engine (host : Host ι σ) (delivery : Delivery) (o : Occurrence) (conditions : Context)
    (workflows : List Workflow) (w : World ι σ) :
    (visit host delivery o conditions workflows w).2.engine =
      { w.engine with evaluator := (visit host delivery o conditions workflows w).2.engine.evaluator } := by
  induction workflows generalizing w with
  | nil => rfl
  | cons workflow rest ih =>
    rw [visit_cons]
    refine (ih _).trans ?_
    rw [visitOne_engine]
    rfl

/-! ### Dispatches -/

theorem run_eq (host : Host ι σ) (delivery : Delivery) (trigger : String) (event : Event)
    (now : Instant) (w : World ι σ) :
    run host delivery trigger event now w =
      let heard := callListeners host trigger event (w.engine.listenersOf trigger) w
      let visited := visit host delivery ⟨trigger, event, event.templateRoot now⟩
        event.conditionContext (w.engine.index.matching trigger) heard.2
      ((⟨trigger, w.engine.index.version, heard.1, visited.1.entries⟩, visited.1.started),
        visited.2) := rfl

end RecordGate.Dispatch
