import RecordGate.Proofs.Engine.Detachment

/-!
# The contacts of a dispatch

A dispatch reaches out of the engine in two ways: it calls listeners, and it calls the handler.  To speak of the
order of both, the host is made to keep one trace of all its contacts.  The tracing host does what the host does
(`run_tracing`), and its trace has the listeners first: those of the trigger, one after another, each once and with its
reply, and behind them the calls of the handler (`contacts_eq`).

The trace is obtained without a second account of what a dispatch does: a tracing host and a recording host are alike,
with the trace being what stood there before followed by the recorded calls (`Host.alike_tracing`), and a visit keeps
that relation.  So the calls of the trace are the calls that are known already.

Main statement: `contacts_eq`.
-/

namespace RecordGate

variable {ι σ : Type}

/-! ### Hosts that trace their contacts -/

/-- A call of a listener with its reply, or a call of the handler. -/
inductive Contact (ι : Type) where
  | heard (listener : ι) (trigger : String) (event : Event) (reply : Reply String)
  | handled (call : Call)

/-- The state of the outside beside the contacts that were made, oldest first. -/
structure Traced (ι σ : Type) where
  state : σ
  contacts : List (Contact ι)

/-- The host that does the same and traces its contacts. -/
def Host.tracing (host : Host ι σ) : Host ι (Traced ι σ) where
  handle action invocation t :=
    let (reply, state) := host.handle action invocation t.state
    (reply, ⟨state, t.contacts ++ [.handled ⟨action, invocation, reply⟩]⟩)
  hear listener trigger event w :=
    let (reply, after) := host.hear listener trigger event ⟨w.engine, w.outside.state⟩
    (reply, ⟨after.engine, ⟨after.outside, w.outside.contacts ++ [.heard listener trigger event reply]⟩⟩)

theorem Host.alike_tracing (host : Host ι σ) (before : List (Contact ι)) :
    Handler.Alike (fun t r => t.state = r.state ∧ t.contacts = before ++ r.calls.map .handled)
      host.tracing.handle host.recording.handle := by
  rintro action invocation t r ⟨hstate, hcontacts⟩
  simp [tracing, recording, Handler.recording, hstate, hcontacts]

/-- Whether code that was called is not done. -/
def Reply.isFailure {ε : Type} : Reply ε → Bool
  | done => false
  | _ => true

namespace Dispatch

/-- What a dispatch reaches outside of the engine, in its order. -/
def contacts (host : Host ι σ) (delivery : Delivery) (trigger : String) (event : Event) (now : Instant)
    (w : World ι σ) : List (Contact ι) :=
  (run host.tracing delivery trigger event now ⟨w.engine, ⟨w.outside, []⟩⟩).2.outside.contacts

/-! ### Listeners -/

/-- The contacts with listeners that reply one after another. -/
def hearings (host : Host ι σ) (trigger : String) (event : Event) (listeners : List ι) (w : World ι σ) :
    List (Contact ι) :=
  List.zipWith (fun listener reply => .heard listener trigger event reply) listeners
    (replies host trigger event listeners w)

section

variable (host : Host ι σ) (trigger : String) (event : Event) (listeners : List ι)

theorem length_replies (w : World ι σ) : (replies host trigger event listeners w).length = listeners.length := by
  induction listeners generalizing w with
  | nil => rfl
  | cons listener rest ih => exact congrArg Nat.succ (ih _)

theorem callListeners_eq_countP (w : World ι σ) :
    (callListeners host trigger event listeners w).1 =
      (replies host trigger event listeners w).countP Reply.isFailure := by
  induction listeners generalizing w with
  | nil => rfl
  | cons listener rest ih =>
    rw [callListeners_cons, replies, List.countP_cons]
    dsimp only
    rw [ih]
    cases (host.hear listener trigger event w).1 <;> rfl

theorem callListeners_tracing (e : Engine ι) (s : σ) (before : List (Contact ι)) :
    callListeners host.tracing trigger event listeners ⟨e, ⟨s, before⟩⟩ =
      ((callListeners host trigger event listeners ⟨e, s⟩).1,
        ⟨(callListeners host trigger event listeners ⟨e, s⟩).2.engine,
          ⟨(callListeners host trigger event listeners ⟨e, s⟩).2.outside,
            before ++ hearings host trigger event listeners ⟨e, s⟩⟩⟩) := by
  induction listeners generalizing e s before with
  | nil => simp [callListeners, hearings]
  | cons listener rest ih =>
    have hhear : host.tracing.hear listener trigger event ⟨e, ⟨s, before⟩⟩ =
      ((host.hear listener trigger event ⟨e, s⟩).1,
        ⟨(host.hear listener trigger event ⟨e, s⟩).2.engine,
          ⟨(host.hear listener trigger event ⟨e, s⟩).2.outside,
            before ++ [.heard listener trigger event (host.hear listener trigger event ⟨e, s⟩).1]⟩⟩) := rfl
    rw [callListeners_cons, callListeners_cons, hhear]
    dsimp only
    rw [ih]
    simp [hearings, replies]

end

/-! ### Dispatches -/

section

variable (host : Host ι σ) (delivery : Delivery) (trigger : String) (event : Event) (now : Instant)
  (w : World ι σ)

theorem alike_heard :
    World.Alike (fun t r => t.state = r.state ∧
        t.contacts = hearings host trigger event (w.engine.listenersOf trigger) w ++ r.calls.map .handled)
      (callListeners host.tracing trigger event (w.engine.listenersOf trigger) ⟨w.engine, ⟨w.outside, []⟩⟩).2
      (callListeners host.recording trigger event (w.engine.listenersOf trigger) ⟨w.engine, ⟨w.outside, []⟩⟩).2 := by
  rw [callListeners_tracing, callListeners_recording]
  exact ⟨rfl, rfl, (List.append_nil _).symm⟩

/-- A dispatch of the tracing host is one of the host. -/
theorem run_tracing :
    (run host.tracing delivery trigger event now ⟨w.engine, ⟨w.outside, []⟩⟩).1 =
      (run host delivery trigger event now w).1 := by
  have hrecording := (run_recording host delivery trigger event now ⟨w.engine, ⟨w.outside, []⟩⟩).1
  refine Eq.trans ?_ hrecording
  obtain ⟨hvisited, -⟩ := visit_alike
    (host.alike_tracing (hearings host trigger event (w.engine.listenersOf trigger) w))
    (alike_heard host trigger event w) delivery ⟨trigger, event, event.templateRoot now⟩ event.conditionContext
    (w.engine.index.matching trigger)
  rw [run_eq, run_eq]
  dsimp only
  rw [hvisited, callListeners_tracing, callListeners_recording]
  rfl

/-- **A dispatch calls the listeners of its trigger first**, each once, and the handler after them. -/
theorem contacts_eq :
    contacts host delivery trigger event now w =
      hearings host trigger event (w.engine.listenersOf trigger) w ++
        (calls host delivery trigger event now w).map .handled := by
  obtain ⟨-, -, -, hcontacts⟩ := visit_alike
    (host.alike_tracing (hearings host trigger event (w.engine.listenersOf trigger) w))
    (alike_heard host trigger event w) delivery ⟨trigger, event, event.templateRoot now⟩ event.conditionContext
    (w.engine.index.matching trigger)
  exact hcontacts

end

end Dispatch

end RecordGate
