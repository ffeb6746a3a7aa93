import RecordGate.Proofs.Engine.Shares

/-!
# Workflows are isolated from one another

The workflows of a dispatch are visited in one world.  They share an evaluator that remembers, each finds outside
what those before it left, and listeners that were called before them may have failed, broken down or installed
something else.  If the replies of the handler depend on the action and its invocation alone, nothing of this
reaches a workflow: wherever it is declared, and whatever happened to the engine before, its entry and its calls are
the same.

The two engines that are compared have nothing to do with each other: their hosts, listeners, histories and worlds
outside may differ, as long as the replies of their handlers are given by one function of the action and its
invocation, and both hold the workflow under the trigger.  Its places in the two lists may differ too.  The share of a
workflow depends on none of these (`share_eq_of_repliesBy`), and the dispatch is made up of shares.

Main statement: `isolated_of_reaches`.
-/

namespace RecordGate

open Operation

variable {ι κ σ τ : Type}

namespace Dispatch

/-- Two visits of a workflow, by hosts whose handlers reply the same, give one share. -/
theorem share_eq_of_repliesBy {host : Host ι σ} {other : Host κ τ}
    {reply : Action → Invocation → Reply ActionError} (hreply : host.handle.RepliesBy reply)
    (hother : other.handle.RepliesBy reply) (delivery : Delivery) (o : Occurrence) (conditions : Context)
    (workflow : Workflow) {w : World ι σ} {v : World κ τ} (hw : w.engine.evaluator.Sound)
    (hv : v.engine.evaluator.Sound) :
    share host delivery o conditions workflow w = share other delivery o conditions workflow v := by
  obtain ⟨houtcome, hcalls⟩ :=
    Workflow.run_eq_of_repliesBy hreply hother workflow o w.outside v.outside
  rw [share_eq host delivery o conditions workflow hw, share_eq other delivery o conditions workflow hv]
  dsimp only
  rw [houtcome, hcalls]

theorem MadeUpOf.getElem?_entries {host : Host ι σ} {delivery : Delivery} {trigger : String} {event : Event}
    {now : Instant} {w : World ι σ} {parts : List Share} (h : MadeUpOf host delivery trigger event now w parts)
    {i : Nat} {part : Share} (hpart : parts[i]? = some part) :
    (run host delivery trigger event now w).1.1.entries[i]? = some ⟨part.workflow.name, part.outcome⟩ := by
  rw [h.entries_eq, List.getElem?_map, hpart]
  rfl

/-- Two dispatches, each made up of its shares, in which a workflow that both come to has one share, and so the same
entry, wherever it stands in the one and in the other. -/
structure Isolated (host : Host ι σ) (other : Host κ τ) (delivery : Delivery) (trigger : String) (event : Event)
    (now : Instant) (w : World ι σ) (v : World κ τ) : Prop where
  first : MadeUpOf host delivery trigger event now w (shares host delivery trigger event now w)
  second : MadeUpOf other delivery trigger event now v (shares other delivery trigger event now v)
  common : ∀ (d : WorkflowDefinition) (i j : Nat),
    (w.engine.index.matching trigger)[i]? = some (.ofDefinition d) →
    (v.engine.index.matching trigger)[j]? = some (.ofDefinition d) →
    ∃ part, (shares host delivery trigger event now w)[i]? = some part ∧
      (shares other delivery trigger event now v)[j]? = some part ∧
      (run host delivery trigger event now w).1.1.entries[i]? = some ⟨d.name, part.outcome⟩ ∧
      (run other delivery trigger event now v).1.1.entries[j]? = some ⟨d.name, part.outcome⟩

end Dispatch

/-- **Workflows are isolated from one another.**  Take two engines with any two histories: other settings, other
capacities, other listeners and other workflows around it.  If both come to a workflow when an event is dispatched
under a trigger, and the replies of their handlers depend on the action and the invocation alone, then its entry and
its calls are the same in both. -/
theorem isolated_of_reaches {host : Host ι σ} {other : Host κ τ} (hhost : host.UsesOperations)
    (hother : other.UsesOperations) {reply : Action → Invocation → Reply ActionError}
    (hreply : host.handle.RepliesBy reply) (hreply' : other.handle.RepliesBy reply) {w : World ι σ}
    {v : World κ τ} (hw : host.Reaches w.engine) (hv : other.Reaches v.engine) (delivery : Delivery)
    (trigger : String) (event : Event) (now : Instant) :
    Dispatch.Isolated host other delivery trigger event now w v where
  first := Dispatch.madeUpOf_shares host delivery trigger event now w
  second := Dispatch.madeUpOf_shares other delivery trigger event now v
  common := by
    intro d i j hi hj
    obtain ⟨world, hsound, hpart⟩ :=
      Dispatch.getElem?_shares (hw.sound_heard hhost trigger event) delivery now hi
    obtain ⟨world', hsound', hpart'⟩ :=
      Dispatch.getElem?_shares (hv.sound_heard hother trigger event) delivery now hj
    rw [← Dispatch.share_eq_of_repliesBy hreply hreply' delivery _ _ _ hsound hsound'] at hpart'
    refine ⟨_, hpart, hpart', ?_, ?_⟩
    · exact (Dispatch.madeUpOf_shares host delivery trigger event now w).getElem?_entries hpart
    · exact (Dispatch.madeUpOf_shares other delivery trigger event now v).getElem?_entries hpart'

/-! ### An engine with unruly listeners -/

/-- Logging is done, and every other action breaks down. -/
def logged : Action → Invocation → Reply ActionError
  | .log _, _ => .done
  | _, _ => .panicked "unplugged"

/-- A host without listeners. -/
def quietHost : Host Empty Unit where
  handle action invocation _ := (logged action invocation, ())
  hear listener := nomatch listener

/-- A host that counts the calls of its handler, and whose listeners are lists of workflows.  Each installs its list
and breaks down. -/
def unruly : Host (List WorkflowDefinition) Nat where
  handle action invocation n := (logged action invocation, n + 1)
  hear workflows _ _ w := (.panicked "lost", { w with engine := (w.engine.reload workflows).2 })

theorem usesOperations_quietHost : quietHost.UsesOperations := fun listener => nomatch listener

theorem usesOperations_unruly : unruly.UsesOperations :=
  fun workflows _ _ _ => ⟨[.reload workflows], [], rfl, .quiet rfl .nil⟩

theorem repliesBy_quietHost : quietHost.handle.RepliesBy logged := fun _ _ _ => rfl

theorem repliesBy_unruly : unruly.handle.RepliesBy logged := fun _ _ _ => rfl

/-- Workflows around `audit`: one whose condition does not parse, one that fails, and one that is detached. -/
def crowded : List WorkflowDefinition :=
  [(WorkflowDefinition.ofTrigger "broken" "saved").withCondition "(",
    (WorkflowDefinition.ofTrigger "failing" "saved").withAction (.tag "updateStats"), audit,
    ((WorkflowDefinition.ofTrigger "later" "saved").withAction (.tag "log")).detached]

/-- Alone in one engine, and third in another, whose listener drops all workflows and breaks down: two calls are
made in both, and the second breaks down. -/
theorem isolated_of_reaches_unruly :
    ∃ part,
      (Dispatch.shares quietHost .awaited "saved" default default
        (performAll quietHost ⟨.fresh .allow 0, ()⟩ [.reload [audit]]))[0]? = some part ∧
      (Dispatch.shares unruly .awaited "saved" default default
        (performAll unruly ⟨.fresh .deny 1, 5⟩ [.listen "saved" [], .emit .awaited "saved" default default,
          .reload crowded]))[2]? = some part ∧
      part.outcome = .failed 1 (.panicked "unplugged") ∧ part.calls.length = 2 := by
  have hquiet : quietHost.Reaches
      (performAll quietHost ⟨.fresh .allow 0, ()⟩ [.reload [audit]]).engine := ⟨_, _, _, _, rfl⟩
  have hunruly : unruly.Reaches (performAll unruly ⟨.fresh .deny 1, 5⟩
      [.listen "saved" [], .emit .awaited "saved" default default, .reload crowded]).engine :=
    ⟨_, _, _, _, rfl⟩
  have hisolated := isolated_of_reaches usesOperations_quietHost usesOperations_unruly repliesBy_quietHost
    repliesBy_unruly hquiet hunruly .awaited "saved" default default
  obtain ⟨part, hfirst, hsecond, -⟩ := hisolated.common audit 0 2 rfl rfl
  have hpart : ((Dispatch.shares quietHost .awaited "saved" default default
      (performAll quietHost ⟨.fresh .allow 0, ()⟩ [.reload [audit]]))[0]?).map
        (fun part => (part.outcome, part.calls.length)) = some (.failed 1 (.panicked "unplugged"), 2) := by
    decide +kernel
  rw [hfirst] at hpart
  obtain ⟨houtcome, hcalls⟩ := Prod.mk.inj (Option.some.inj hpart)
  exact ⟨part, hfirst, hsecond, houtcome, hcalls⟩

end RecordGate
