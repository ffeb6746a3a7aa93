import Mathlib.Algebra.Group.Pi.Lemmas
import RecordGate.Proofs.Channel.Effects
import RecordGate.Proofs.Engine.Listeners

/-!
# What the counters count

The counters of an engine with the built-in actions go up by the actions that count, and by nothing else.  A run counts
the actions that it comes to before its first failure, a skipped workflow counts none, and every dispatch counts
under its own trigger, so that after a history of manifests, reloads and dispatches that wait the counters are the
tally of the history.

`Counters.Tallies` is the invariant: the names that are listed are those with a positive tally, each with its tally.
It is carried through a call (`counters_handle`), a run, a visit, a dispatch and a history, in this order.

Main statement: `tallied_performAll`.
-/

namespace RecordGate

open Operation

variable {ι σ τ : Type}

/-! ### Counters -/

namespace Counters

variable {c : Counters} {f : String → Nat}

/-- Counters that stand at these numbers, where a name at zero is not listed. -/
def Tallies (c : Counters) (f : String → Nat) : Prop :=
  ∀ name, c.find? name = if f name = 0 then none else some (f name)

theorem tallies_empty : Tallies .empty 0 := fun _ => rfl

theorem Tallies.value_eq (h : c.Tallies f) (name : String) : c.value name = f name := by
  rw [value, h name]
  split
  next hzero => exact hzero.symm
  next => rfl

theorem Tallies.mem_entries_iff (h : c.Tallies f) {name : String} {n : Nat} :
    (name, n) ∈ c.entries ↔ 0 < n ∧ n = f name := by
  rw [Table.mem_entries_iff, h name]
  split
  next hzero =>
    rw [hzero]
    constructor
    · nofun
    · rintro ⟨hpos, rfl⟩
      exact absurd rfl (Nat.ne_of_gt hpos)
  next hpos =>
    rw [Option.some.injEq]
    constructor
    · rintro rfl
      exact ⟨Nat.pos_of_ne_zero hpos, rfl⟩
    · exact fun hn => hn.2.symm

theorem Tallies.increment (h : c.Tallies f) (name : String) : (c.increment name).Tallies (f + Pi.single name 1) := by
  intro other
  rw [Counters.increment, Table.find?_update, ← value, h.value_eq]
  by_cases hname : name = other
  · subst hname
    simp
  · simp [hname, Ne.symm hname, h other]

end Counters

/-! ### Actions that count -/

/-- How many actions were done. -/
def Outcome.actionsRun : Outcome → Nat
  | skipped => 0
  | completed actions => actions
  | failed actions _ => actions
  | detached => 0

/-- How many of the actions that were done are actions that count. -/
def Workflow.counted (w : Workflow) (outcome : Outcome) : Nat :=
  (w.recognized.take outcome.actionsRun).countP Action.isCount

namespace Dispatch

/-- The sum over workflows that have these entries in a report. -/
def countedOf (workflows : List Workflow) (entries : List Report.Entry) : Nat :=
  (List.zipWith (fun workflow entry => workflow.counted entry.outcome) workflows entries).sum

/-- How many actions that count are done in a dispatch, by its report. -/
def counted (host : Host ι σ) (delivery : Delivery) (trigger : String) (event : Event) (now : Instant)
    (w : World ι σ) : Nat :=
  countedOf (w.engine.index.matching trigger) (run host delivery trigger event now w).1.1.entries

end Dispatch

namespace Operation

/-- What an operation counts, by name: an emission counts under its trigger. -/
def counted (host : Host ι σ) (w : World ι σ) : Operation ι σ → String → Nat
  | emit delivery trigger event now => Pi.single trigger (Dispatch.counted host delivery trigger event now w)
  | _ => 0

/-- What a history counts, by name. -/
def tally (host : Host ι σ) : World ι σ → List (Operation ι σ) → String → Nat
  | _, [] => 0
  | w, o :: rest => o.counted host w + tally host (o.perform host w) rest

/-- Operations that leave nothing behind: no run goes on, no listener is added, and nothing happens outside. -/
def isSettled : Operation ι σ → Bool
  | listen _ _ => false
  | emit delivery _ _ _ => delivery == .awaited
  | outside _ => false
  | _ => true

end Operation

namespace Builtin

variable (s : Setup) (c : Channels τ) {f : String → Nat}

/-- The host of the built-in actions, with whatever listeners. -/
def host (hear : ι → String → Event → World ι (Desk τ) → Reply String × World ι (Desk τ)) : Host ι (Desk τ) :=
  ⟨handle s c, hear⟩

/-! ### Calls, runs and visits -/

theorem tallies_handle {d : Desk τ} (h : d.counters.Tallies f) (action : Action) (i : Invocation) :
    (handle s c action i d).2.counters.Tallies
      (f + Pi.single i.trigger (if action.isCount then 1 else 0)) := by
  rw [counters_handle]
  cases action.isCount with
  | true => exact h.increment i.trigger
  | false => simpa using h

theorem isCount_of_error? {d : Desk τ} {action : Action} {i : Invocation} {error : ActionError}
    (h : (handle s c action i d).1.error? = some error) : action.isCount = false := by
  cases action with
  | count =>
    rw [handle_count] at h
    cases h
  | _ => rfl

/-- **A run counts the actions before its first failure.** -/
theorem tallies_perform (invoke : Action → Invocation) {trigger : String}
    (hinvoke : ∀ action, (invoke action).trigger = trigger) (count : Nat) (actions : List Action) {d : Desk τ}
    (h : d.counters.Tallies f) :
    ∃ done, (Workflow.perform (handle s c) invoke count actions d).1.actionsRun = count + done ∧
      (Workflow.perform (handle s c) invoke count actions d).2.counters.Tallies
        (f + Pi.single trigger ((actions.take done).countP Action.isCount)) := by
  induction actions generalizing count d f with
  | nil => exact ⟨0, rfl, by simpa [Workflow.perform] using h⟩
  | cons action rest ih =>
    have hcall := tallies_handle s c h action (invoke action)
    rw [hinvoke] at hcall
    cases herror : (handle s c action (invoke action) d).1.error? with
    | some error =>
      refine ⟨0, by simp [Workflow.perform, herror, Outcome.actionsRun], ?_⟩
      rw [isCount_of_error? s c herror] at hcall
      simpa [Workflow.perform, herror] using hcall
    | none =>
      obtain ⟨done, hdone, htallies⟩ := ih (count + 1) hcall
      refine ⟨done + 1, ?_, ?_⟩
      · simp only [Workflow.perform, herror, hdone]
        omega
      · simp only [Workflow.perform, herror]
        rw [List.take_succ_cons, List.countP_cons, add_comm (List.countP _ _), Pi.single_add, ← add_assoc]
        exact htallies

variable (hear : ι → String → Event → World ι (Desk τ) → Reply String × World ι (Desk τ))

theorem tallies_visitOne (delivery : Delivery) (o : Occurrence) (conditions : Context) (workflow : Workflow)
    {w : World ι (Desk τ)} (h : w.outside.counters.Tallies f) :
    (Dispatch.visitOne (host s c hear) delivery o conditions workflow w).2.outside.counters.Tallies
      (f + Pi.single o.trigger (workflow.counted
        (Dispatch.visitOne (host s c hear) delivery o conditions workflow w).1.1)) := by
  rcases Dispatch.visitOne_cases (host s c hear) delivery o conditions workflow w with hcase | hcase | hcase
  · rw [hcase]
    simpa [Workflow.counted, Outcome.actionsRun, Dispatch.asked] using h
  · rw [hcase]
    simpa [Workflow.counted, Outcome.actionsRun, Dispatch.asked] using h
  · rw [hcase]
    obtain ⟨done, hdone, htallies⟩ :=
      tallies_perform s c (o.invocation workflow) (fun _ => rfl) 0 workflow.recognized h
    rw [Nat.zero_add] at hdone
    rw [← hdone] at htallies
    exact htallies

theorem tallies_visit (delivery : Delivery) (o : Occurrence) (conditions : Context) (workflows : List Workflow)
    {w : World ι (Desk τ)} (h : w.outside.counters.Tallies f) :
    (Dispatch.visit (host s c hear) delivery o conditions workflows w).2.outside.counters.Tallies
      (f + Pi.single o.trigger (Dispatch.countedOf workflows
        (Dispatch.visit (host s c hear) delivery o conditions workflows w).1.entries)) := by
  induction workflows generalizing w f with
  | nil => simpa [Dispatch.visit, Dispatch.countedOf] using h
  | cons workflow rest ih =>
    have hrest := ih (tallies_visitOne s c hear delivery o conditions workflow h)
    rw [Dispatch.visit_cons]
    rw [add_assoc, ← Pi.single_add] at hrest
    exact hrest

/-! ### Histories -/

/-- A world in which no listener waits, the engine is ready to dispatch, and the counters stand at these numbers. -/
structure Counting (w : World ι (Desk τ)) (f : String → Nat) : Prop where
  unattended : ∀ trigger, w.engine.listenersOf trigger = []
  ready : w.engine.Ready
  tallies : w.outside.counters.Tallies f

theorem counting_fresh (missing : MissingRule) (capacity : Nat) (outside : τ) :
    Counting (⟨.fresh missing capacity, ⟨.empty, outside⟩⟩ : World ι (Desk τ)) 0 :=
  ⟨fun _ => rfl, .fresh missing capacity, Counters.tallies_empty⟩

namespace Counting

variable {w : World ι (Desk τ)}

theorem emit (h : Counting w f) (delivery : Delivery) (trigger : String) (event : Event) (now : Instant) :
    Counting ((Operation.emit delivery trigger event now).perform (host s c hear) w)
      (f + (Operation.emit delivery trigger event now).counted (host s c hear) w) := by
  have hrun := Dispatch.run_eq (host s c hear) delivery trigger event now w
  rw [h.unattended trigger] at hrun
  rw [Operation.counted, Dispatch.counted, Operation.perform, hrun]
  refine ⟨?_, ?_, ?_⟩
  · intro other
    have hengine := Dispatch.visit_engine (host s c hear) delivery ⟨trigger, event, event.templateRoot now⟩
      event.conditionContext (w.engine.index.matching trigger) w
    exact (congrArg (·.listenersOf other) hengine).trans (h.unattended other)
  · exact (Engine.Ready.invariant.lasting none).visit h.ready _ _ _ _ _
  · exact tallies_visit s c hear delivery _ _ _ h.tallies

theorem apply (h : Counting w f) (m : Manifest) :
    Counting ((Operation.apply m).perform (host s c hear) w) f := by
  refine ⟨?_, ?_, h.tallies⟩
  · intro trigger
    rw [Operation.listenersOf_perform _ _ rfl, h.unattended]
    rfl
  · cases happly : (w.engine.apply m).1 with
    | ok version =>
      rw [Operation.perform, (Engine.apply_eq_ok happly).2]
      exact ⟨h.ready.sound, _, _, rfl⟩
    | error problem =>
      rw [Operation.perform, Engine.apply_eq_error happly]
      exact h.ready

theorem quiet (h : Counting w f) {o : Operation ι (Desk τ)} (ho : o.isQuiet = true) (hsettled : o.isSettled = true) :
    Counting (o.perform (host s c hear) w) f := by
  have hready := (Engine.Ready.invariant.lasting none).quiet h.ready (host s c hear) ho
    fun _ _ => ⟨h.ready.sound, _, _, rfl⟩
  have hunattended : ∀ trigger, (o.perform (host s c hear) w).engine.listenersOf trigger = [] := by
    intro trigger
    cases o with
    | emit delivery trigger event now => cases ho
    | listen trigger listener => cases hsettled
    | _ =>
      rw [Operation.listenersOf_perform _ _ rfl, h.unattended]
      rfl
  cases o with
  | outside d => cases hsettled
  | emit delivery trigger event now => cases ho
  | _ => exact ⟨hunattended, hready, h.tallies⟩

/-- **An operation that leaves nothing behind raises the counters by what it counts.** -/
theorem perform (h : Counting w f) {o : Operation ι (Desk τ)} (ho : o.isSettled = true) :
    Counting (o.perform (host s c hear) w) (f + o.counted (host s c hear) w) := by
  cases o with
  | emit delivery trigger event now => exact h.emit s c hear delivery trigger event now
  | apply m => exact h.apply s c hear m
  | _ => exact h.quiet s c hear rfl ho

theorem performAll (h : Counting w f) {ops : List (Operation ι (Desk τ))} (hops : ∀ o ∈ ops, o.isSettled = true) :
    Counting (Operation.performAll (host s c hear) w ops) (f + tally (host s c hear) w ops) := by
  induction ops generalizing w f with
  | nil => exact h
  | cons o rest ih =>
    obtain ⟨ho, hrest⟩ := List.forall_mem_cons.1 hops
    rw [performAll_cons, tally, ← add_assoc]
    exact ih (h.perform s c hear ho) hrest

end Counting

/-- After a history the counters hold its tally, and its reports, by which the tally is made, tell how far each workflow
came: it was skipped, or its actions were performed up to the first that was not done. -/
structure Tallied (host : Host ι (Desk τ)) (w : World ι (Desk τ)) (ops : List (Operation ι (Desk τ))) : Prop where
  value_eq : ∀ name, (performAll host w ops).outside.counters.value name = tally host w ops name
  mem_entries_iff : ∀ name n, (name, n) ∈ (performAll host w ops).outside.counters.entries ↔
    0 < n ∧ n = tally host w ops name
  visited : ∀ earlier trigger event now later, ops = earlier ++ .emit .awaited trigger event now :: later →
    ∃ version definitions, (performAll host w earlier).engine.index = .build version definitions ∧
      VisitedAll trigger event now (definitions.filter (·.trigger = trigger))
        (Dispatch.run host .awaited trigger event now (performAll host w earlier)).1.1.entries
        (Dispatch.calls host .awaited trigger event now (performAll host w earlier))

/-- **The counters count exactly the counting actions that were done.**  Whatever is set up and whatever the channels
reply, after a history of manifests, reloads, questions and dispatches that wait every name stands at its tally, and
the names that are listed are those with a positive tally.  The tally of a name sums, over the dispatches under it,
the counting actions of each workflow that stand before its first action that was not done. -/
theorem tallied_performAll (s : Setup) (c : Channels τ)
    (hear : ι → String → Event → World ι (Desk τ) → Reply String × World ι (Desk τ)) (missing : MissingRule)
    (capacity : Nat) (outside : τ) {ops : List (Operation ι (Desk τ))} (hops : ∀ o ∈ ops, o.isSettled = true) :
    Tallied (host s c hear) ⟨.fresh missing capacity, ⟨.empty, outside⟩⟩ ops := by
  have hstart : Counting (⟨.fresh missing capacity, ⟨.empty, outside⟩⟩ : World ι (Desk τ)) 0 :=
    counting_fresh missing capacity outside
  have htallies := (hstart.performAll s c hear hops).tallies
  rw [zero_add] at htallies
  refine ⟨htallies.value_eq, fun _ _ => htallies.mem_entries_iff, ?_⟩
  rintro earlier trigger event now later rfl
  have hearlier := hstart.performAll s c hear
    fun o ho => hops o (List.mem_append_left _ ho)
  generalize performAll (host s c hear) ⟨.fresh missing capacity, ⟨.empty, outside⟩⟩ earlier = w at hearlier ⊢
  obtain ⟨version, definitions, hindex⟩ := hearlier.ready.built
  refine ⟨version, definitions, hindex, Dispatch.visitedAll_of_sound _ trigger event now hindex ?_⟩
  -- no listener is called before the workflows are visited
  rw [hearlier.unattended trigger]
  exact hearlier.ready.sound

/-! ### A sink that is full -/

/-- Channels with a sink that takes nothing. -/
def full : Channels Unit where
  send _ t := (.error "unreachable", t)
  deliver _ t := (.error "unreachable", t)
  write _ _ t := (.error "full", t)

/-- A workflow that counts, writes and counts again. -/
def ledger : WorkflowDefinition :=
  ⟨"ledger", "saved", none, [.tag "updateStats", .typed "database" .null, .tag "updateStats"], false⟩

/-- A workflow whose condition does not hold. -/
def dormant : WorkflowDefinition := ⟨"dormant", "saved", some "false", [.tag "updateStats"], false⟩

/-- Two workflows, and three dispatches. -/
def busy : List (Operation Empty (Desk Unit)) :=
  [.reload [ledger, dormant], .emit .awaited "saved" default default, .emit .awaited "closed" default default,
    .emit .awaited "saved" default default]

/-- A workflow that fails at its second action counts its first, and one that is skipped counts none. -/
theorem tallied_performAll_full :
    Tallied (host ⟨false, true, none, none, 0⟩ full (fun listener => nomatch listener))
        ⟨.fresh .deny 0, ⟨.empty, ()⟩⟩ busy ∧
      (performAll (host ⟨false, true, none, none, 0⟩ full (fun listener => nomatch listener))
        ⟨.fresh .deny 0, ⟨.empty, ()⟩⟩ busy).outside.counters.entries = [("saved", 2)] := by
  have hbusy : ∀ o ∈ busy, o.isSettled = true := by decide
  exact ⟨tallied_performAll _ full _ .deny 0 () hbusy, by decide +kernel⟩

end Builtin

end RecordGate
