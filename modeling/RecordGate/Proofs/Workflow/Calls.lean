import RecordGate.Workflow.Run
import RecordGate.Proofs.Expression.Memory

/-!
# The calls of a run

A run asks its condition first, and then calls the handler action by action.  To say which calls those are,
a handler is made to keep a record of them; the record does not change what it does.

* `answers_meets`: whether a condition holds does not depend on what the evaluator remembers.
* `performed_of_run`: a run makes the calls of all its recognized actions, or those up to the first that
  is not done.
* `perform_alike`: handlers that reply the same in related states let a run end the same.
* `run_eq_of_repliesBy`: if the replies depend on nothing outside, neither does the run.

Two handlers are `Handler.Alike` in a relation of their states if in related states they reply the same and are related
again.  Recording, tracing and forgetting are such relations, so that runs with them are compared by one induction
(`perform_alike`) and not by one each.
-/

namespace RecordGate

variable {σ : Type}

/-! ### Recorded calls -/

/-- A call of a handler and its reply. -/
structure Call where
  action : Action
  invocation : Invocation
  reply : Reply ActionError

/-- The state of the outside beside the calls that were made, oldest first. -/
structure Recorded (σ : Type) where
  state : σ
  calls : List Call

/-- The handler that does the same and records its calls. -/
def Handler.recording (handle : Handler σ) : Handler (Recorded σ) := fun action invocation s =>
  let (reply, state) := handle action invocation s.state
  (reply, ⟨state, s.calls ++ [⟨action, invocation, reply⟩]⟩)

/-- What a handler replies depends on the action and its invocation alone. -/
def Handler.RepliesBy (handle : Handler σ) (reply : Action → Invocation → Reply ActionError) : Prop :=
  ∀ action invocation s, (handle action invocation s).1 = reply action invocation

variable {τ : Type}

/-- Two handlers reply the same in related states, and leave related states. -/
def Handler.Alike (R : σ → τ → Prop) (handle : Handler σ) (other : Handler τ) : Prop :=
  ∀ action invocation s t, R s t →
    (handle action invocation s).1 = (other action invocation t).1 ∧
      R (handle action invocation s).2 (other action invocation t).2

theorem Handler.alike_recording (handle : Handler σ) :
    Alike (fun r s => r.state = s) (Handler.recording handle) handle := by
  rintro action invocation r _ rfl
  exact ⟨rfl, rfl⟩

theorem Handler.Alike.recording {R : σ → τ → Prop} {handle : Handler σ} {other : Handler τ}
    (h : Alike R handle other) :
    Alike (fun r r' => R r.state r'.state ∧ r.calls = r'.calls) (Handler.recording handle)
      (Handler.recording other) := by
  rintro action invocation r r' ⟨hstate, hcalls⟩
  obtain ⟨hreply, hnext⟩ := h action invocation r.state r'.state hstate
  refine ⟨hreply, hnext, ?_⟩
  simp [Handler.recording, hcalls, hreply]

/-- A reply that is not `done`, with the error that the run reports for it. -/
inductive Reply.Fails : Reply ActionError → ActionError → Prop where
  | failed (error : ActionError) : Fails (.failed error) error
  | panicked (reason : String) : Fails (.panicked reason) (.panicked reason)

theorem Reply.fails_of_error? {reply : Reply ActionError} {error : ActionError}
    (h : reply.error? = some error) : reply.Fails error := by
  cases reply with
  | done => cases h
  | failed e =>
    obtain rfl := Option.some.inj h
    exact .failed e
  | panicked reason =>
    obtain rfl := Option.some.inj h
    exact .panicked reason

theorem Reply.eq_done_of_error? {reply : Reply ActionError} (h : reply.error? = none) :
    reply = .done := by
  cases reply with
  | done => rfl
  | failed e => cases h
  | panicked reason => cases h

namespace Workflow

/-! ### Conditions -/

/-- Whether a condition holds does not depend on what the evaluator remembers; an error in it is a verdict
that does not pass. -/
theorem answers_meets (condition : Option String) (context : Context) :
    Evaluator.Answers (meets condition context)
      (condition.all fun rule => (Expression.evaluate rule context).passed) := by
  intro e he
  cases condition with
  | none => exact ⟨rfl, he⟩
  | some rule =>
    obtain ⟨hverdict, hsound⟩ := Evaluator.answers_evaluate rule context e he
    refine ⟨?_, hsound⟩
    change ((e.evaluate rule context).1.error.isNone && (e.evaluate rule context).1.passed) =
      (Expression.evaluate rule context).passed
    rw [hverdict]
    unfold Expression.evaluate
    cases Expression.parse rule with
    | ok parsed => rfl
    | error err => rfl

/-! ### Actions -/

/-- The call of an action that is done. -/
def doneCall (invoke : Action → Invocation) (action : Action) : Call :=
  ⟨action, invoke action, .done⟩

/-- How a run of actions ends, with its calls: all of them done, or all before the first that is not. -/
inductive Performed (invoke : Action → Invocation) (actions : List Action) :
    Outcome → List Call → Prop where
  | completed : Performed invoke actions (.completed actions.length) (actions.map (doneCall invoke))
  | failed {before after : List Action} {action : Action} {reply : Reply ActionError}
      {error : ActionError} (hactions : actions = before ++ action :: after)
      (hreply : reply.Fails error) :
      Performed invoke actions (.failed before.length error)
        (before.map (doneCall invoke) ++ [⟨action, invoke action, reply⟩])

theorem performed_of_perform (handle : Handler σ) (invoke : Action → Invocation)
    (before rest : List Action) (s : σ) (cs : List Call) :
    ∃ outcome calls state,
      Performed invoke (before ++ rest) outcome calls ∧
        perform (Handler.recording handle) invoke before.length rest
          ⟨s, cs ++ before.map (doneCall invoke)⟩ = (outcome, ⟨state, cs ++ calls⟩) := by
  induction rest generalizing before s with
  | nil =>
    refine ⟨_, _, s, .completed, ?_⟩
    simp [perform]
  | cons action rest ih =>
    cases herror : (handle action (invoke action) s).1.error? with
    | some error =>
      refine ⟨_, _, (handle action (invoke action) s).2, .failed rfl (Reply.fails_of_error? herror), ?_⟩
      simp [perform, Handler.recording, herror]
    | none =>
      have hdone := Reply.eq_done_of_error? herror
      obtain ⟨outcome, calls, state, hperformed, hrun⟩ :=
        ih (before ++ [action]) (handle action (invoke action) s).2
      refine ⟨outcome, calls, state, by simpa using hperformed, ?_⟩
      rw [← hrun]
      simp [perform, Handler.recording, hdone, Reply.error?, doneCall]

/-- **A run makes the calls of its actions up to the first that is not done.** -/
theorem performed_of_run (w : Workflow) (handle : Handler σ) (o : Occurrence) (s : σ)
    (cs : List Call) :
    ∃ outcome calls state,
      Performed (o.invocation w) w.recognized outcome calls ∧
        w.run (Handler.recording handle) o ⟨s, cs⟩ = (outcome, ⟨state, cs ++ calls⟩) := by
  simpa [run] using performed_of_perform handle (o.invocation w) [] w.recognized s cs

/-- **Handlers that are alike let a run end the same.** -/
theorem perform_alike {R : σ → τ → Prop} {handle : Handler σ} {other : Handler τ}
    (h : Handler.Alike R handle other) (invoke : Action → Invocation) (count : Nat) (actions : List Action)
    {s : σ} {t : τ} (hst : R s t) :
    (perform handle invoke count actions s).1 = (perform other invoke count actions t).1 ∧
      R (perform handle invoke count actions s).2 (perform other invoke count actions t).2 := by
  induction actions generalizing count s t with
  | nil => exact ⟨rfl, hst⟩
  | cons action rest ih =>
    obtain ⟨hreply, hnext⟩ := h action (invoke action) s t hst
    cases herror : (other action (invoke action) t).1.error? with
    | some error => simpa [perform, hreply, herror] using hnext
    | none => simpa [perform, hreply, herror] using ih (count + 1) hnext

theorem perform_recording_append (handle : Handler σ) (invoke : Action → Invocation) (count : Nat)
    (actions : List Action) (s : σ) (earlier cs : List Call) :
    perform (Handler.recording handle) invoke count actions ⟨s, earlier ++ cs⟩ =
      ((perform (Handler.recording handle) invoke count actions ⟨s, cs⟩).1,
        ⟨(perform (Handler.recording handle) invoke count actions ⟨s, cs⟩).2.state,
          earlier ++ (perform (Handler.recording handle) invoke count actions ⟨s, cs⟩).2.calls⟩) := by
  have halike : Handler.Alike (fun r r' => r = ⟨r'.state, earlier ++ r'.calls⟩) (Handler.recording handle)
      (Handler.recording handle) := by
    rintro action invocation _ r rfl
    simp [Handler.recording]
  obtain ⟨houtcome, hrecord⟩ := perform_alike halike invoke count actions (t := ⟨s, cs⟩) rfl
  exact Prod.ext houtcome hrecord

/-! ### Handlers without a memory -/

variable {handle : Handler σ} {other : Handler τ} {reply : Action → Invocation → Reply ActionError}

/-- Handlers that reply the same let a run end the same, with the same calls, whatever lies outside. -/
theorem perform_eq_of_repliesBy (h : handle.RepliesBy reply) (h' : other.RepliesBy reply)
    (invoke : Action → Invocation) (count : Nat) (actions : List Action) (s : σ) (t : τ) (cs : List Call) :
    (perform (Handler.recording handle) invoke count actions ⟨s, cs⟩).1 =
        (perform (Handler.recording other) invoke count actions ⟨t, cs⟩).1 ∧
      (perform (Handler.recording handle) invoke count actions ⟨s, cs⟩).2.calls =
        (perform (Handler.recording other) invoke count actions ⟨t, cs⟩).2.calls := by
  have halike : Handler.Alike (fun _ _ => True) handle other := by
    intro action invocation s t _
    exact ⟨(h action invocation s).trans (h' action invocation t).symm, trivial⟩
  obtain ⟨houtcome, -, hcalls⟩ := perform_alike halike.recording invoke count actions
    (s := ⟨s, cs⟩) (t := ⟨t, cs⟩) ⟨trivial, rfl⟩
  exact ⟨houtcome, hcalls⟩

theorem run_eq_of_repliesBy (h : handle.RepliesBy reply) (h' : other.RepliesBy reply) (w : Workflow)
    (o : Occurrence) (s : σ) (t : τ) :
    (w.run (Handler.recording handle) o ⟨s, []⟩).1 = (w.run (Handler.recording other) o ⟨t, []⟩).1 ∧
      (w.run (Handler.recording handle) o ⟨s, []⟩).2.calls =
        (w.run (Handler.recording other) o ⟨t, []⟩).2.calls :=
  perform_eq_of_repliesBy h h' (o.invocation w) 0 w.recognized s t []

end Workflow

end RecordGate
