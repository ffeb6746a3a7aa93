import Mathlib.Data.List.Forall2
import RecordGate.Proofs.Engine.Decision
import RecordGate.Proofs.Engine.Trace
import RecordGate.Proofs.Manifest.Problems
import RecordGate.Proofs.Template.Agreement
import RecordGate.Proofs.Workflow.Checked

/-!
# What is accepted does not fail later

A manifest is checked when it is offered; the engine then evaluates its rules and conditions and fills its
templates with other code, a long time afterwards.  In a history in which rules and workflows are installed by
manifests only (`InstallsByManifest`) the engine stays `Loaded`: its rules parse, its evaluator is sound, and
its index was built from checked workflows.  From such an engine no rule and no condition fails, and whatever a
handler is given is a checked template, filled.

The check and the later use are brought together workflow by workflow.  A workflow of the index is one of a checked
definition (`Engine.Loaded.checked_of_mem_matching`), its condition parses and so is evaluated successfully, and the
texts in the parameters of a call are the declared templates, filled (`Occurrence.texts_params`), where each placeholder
is one that the check accepted.

Main statement: `unfailing_of_history`.
-/

namespace RecordGate

variable {ι σ : Type}

/-! ### Histories without reloads -/

def Operation.isReload : Operation ι σ → Bool
  | reload _ => true
  | _ => false

open Operation

/-- Operations none of which reloads workflows, neither at once nor through the listeners that it calls. -/
inductive InstallsByManifest (host : Host ι σ) : World ι σ → List (Operation ι σ) → Prop where
  | nil {w : World ι σ} : InstallsByManifest host w []
  | apply {w : World ι σ} {m : Manifest} {ops : List (Operation ι σ)}
      (hrest : InstallsByManifest host ((apply m).perform host w) ops) :
      InstallsByManifest host w (.apply m :: ops)
  | emitted {w : World ι σ} {delivery : Delivery} {trigger : String} {event : Event} {now : Instant}
      {inner ops : List (Operation ι σ)}
      (hlisteners : performAll host w inner =
        (Dispatch.callListeners host trigger event (w.engine.listenersOf trigger) w).2)
      (hinner : InstallsByManifest host w inner)
      (hrest : InstallsByManifest host ((emit delivery trigger event now).perform host w) ops) :
      InstallsByManifest host w (.emit delivery trigger event now :: ops)
  | quiet {w : World ι σ} {o : Operation ι σ} {ops : List (Operation ι σ)} (ho : o.isQuiet = true)
      (hreload : o.isReload = false) (hrest : InstallsByManifest host (o.perform host w) ops) :
      InstallsByManifest host w (o :: ops)

theorem InstallsByManifest.append {host : Host ι σ} {w : World ι σ} {ops ops' : List (Operation ι σ)}
    (h : InstallsByManifest host w ops) (h' : InstallsByManifest host (performAll host w ops) ops') :
    InstallsByManifest host w (ops ++ ops') := by
  induction h with
  | nil => exact h'
  | apply _ ih => exact .apply (ih h')
  | emitted hlisteners hinner _ _ ih => exact .emitted hlisteners hinner (ih h')
  | quiet ho hreload _ ih => exact .quiet ho hreload (ih h')

/-- Every listener, whatever it is called with, does to the world what some operations without reloads do. -/
def Host.NeverReloads (host : Host ι σ) : Prop :=
  ∀ listener trigger event w, ∃ ops,
    performAll host w ops = (host.hear listener trigger event w).2 ∧ InstallsByManifest host w ops

theorem Host.NeverReloads.callListeners {host : Host ι σ} (hhost : host.NeverReloads) (trigger : String)
    (event : Event) (listeners : List ι) (w : World ι σ) :
    ∃ ops, performAll host w ops = (Dispatch.callListeners host trigger event listeners w).2 ∧
      InstallsByManifest host w ops := by
  induction listeners generalizing w with
  | nil => exact ⟨[], rfl, .nil⟩
  | cons listener rest ih =>
    obtain ⟨ops, hops, hfirst⟩ := hhost listener trigger event w
    obtain ⟨ops', hops', hothers⟩ := ih (host.hear listener trigger event w).2
    refine ⟨ops ++ ops', ?_, hfirst.append (hops ▸ hothers)⟩
    rw [performAll_append, hops, hops', Dispatch.callListeners_cons]

theorem Host.NeverReloads.installsByManifest {host : Host ι σ} (hhost : host.NeverReloads)
    {ops : List (Operation ι σ)} (hops : ∀ o ∈ ops, o.isReload = false) (w : World ι σ) :
    InstallsByManifest host w ops := by
  induction ops generalizing w with
  | nil => exact .nil
  | cons o rest ih =>
    obtain ⟨ho, hrest⟩ := List.forall_mem_cons.1 hops
    have hnext := ih hrest (o.perform host w)
    cases o with
    | apply m => exact .apply hnext
    | emit delivery trigger event now =>
      obtain ⟨inner, hinner, hlisteners⟩ :=
        hhost.callListeners trigger event (w.engine.listenersOf trigger) w
      exact .emitted hinner hlisteners hnext
    | reload workflows => cases ho
    | listen trigger listener => exact .quiet rfl rfl hnext
    | check entity caller snapshot action => exact .quiet rfl rfl hnext
    | permitted entity caller records action => exact .quiet rfl rfl hnext
    | allowedActions entity caller snapshot => exact .quiet rfl rfl hnext
    | evaluate rule context => exact .quiet rfl rfl hnext
    | outside s => exact .quiet rfl rfl hnext

/-! ### The invariant -/

/-- An engine in which nothing is installed that was not checked. -/
structure Engine.Loaded (e : Engine ι) : Prop where
  sound : e.evaluator.Sound
  rules : ∀ entity action rule, (e.rules entity).find? action = some rule →
    ∃ parsed, Expression.parse rule = .ok parsed
  workflows : ∃ version definitions, e.index = .build version definitions ∧
    ∀ d ∈ definitions, d.Checked

namespace Engine.Loaded

variable {e : Engine ι}

theorem fresh (missing : MissingRule) (capacity : Nat) : Loaded (.fresh missing capacity : Engine ι) := by
  refine ⟨Evaluator.sound_ofCapacity capacity, ?_, 0, [], rfl, ?_⟩
  · intro entity action rule hrule
    cases hrule
  · intro d hd
    cases hd

theorem lasting : Lasting fun e : Engine ι => e.Loaded where
  sound h := h.sound
  evaluator h he := ⟨he, h.rules, h.workflows⟩
  listen h := ⟨h.sound, h.rules, h.workflows⟩

theorem install (h : e.Loaded) {m : Manifest} (hcheck : m.check = .ok ()) : (e.install m).Loaded := by
  obtain ⟨hrules, hworkflows⟩ := Manifest.check_eq_ok_iff.1 hcheck
  refine ⟨h.sound, ?_, _, _, rfl, WorkflowDefinition.issues_eq_nil_iff.1 hworkflows⟩
  intro entity action rule hrule
  rw [rules_install, Manifest.rules] at hrule
  cases hpolicy : m.entities.find? entity with
  | none =>
    rw [hpolicy] at hrule
    cases hrule
  | some policy =>
    rw [hpolicy] at hrule
    exact hrules (entity, policy) (Entries.mem_of_find? hpolicy) (action, rule) (Entries.mem_of_find? hrule)

theorem apply (h : e.Loaded) (m : Manifest) : (e.apply m).2.Loaded := by
  cases happly : (e.apply m).1 with
  | ok version =>
    obtain ⟨hcheck, hinstall⟩ := apply_eq_ok happly
    rw [hinstall]
    exact h.install hcheck
  | error problem =>
    rw [apply_eq_error happly]
    exact h

/-- **Operations without reloads keep an engine loaded.** -/
theorem performAll {host : Host ι σ} {w : World ι σ} {ops : List (Operation ι σ)}
    (hops : InstallsByManifest host w ops) (h : w.engine.Loaded) :
    (Operation.performAll host w ops).engine.Loaded := by
  induction hops with
  | nil => exact h
  | apply _ ih => exact ih (h.apply _)
  | @emitted w delivery trigger event now inner ops hlisteners _ _ ih_inner ih =>
    have hheard := ih_inner h
    rw [hlisteners] at hheard
    exact ih (lasting.visit hheard host delivery _ _ _)
  | @quiet w o ops ho hreload _ ih =>
    refine ih (lasting.quiet h host ho ?_)
    rintro workflows rfl
    cases hreload

theorem checked_of_mem_matching (h : e.Loaded) {trigger : String} {workflow : Workflow}
    (hmem : workflow ∈ e.index.matching trigger) : ∃ d, d.Checked ∧ workflow = .ofDefinition d := by
  obtain ⟨version, definitions, hindex, hchecked⟩ := h.workflows
  rw [hindex, WorkflowIndex.matching_build_eq] at hmem
  obtain ⟨d, hd, rfl⟩ := List.mem_map.1 hmem
  exact ⟨d, hchecked d (List.mem_filter.1 hd).1, rfl⟩

end Engine.Loaded

/-! ### Nothing fails -/

/-- Every rule of every entity is evaluated without an error, for whoever asks and about whatever. -/
def Engine.RulesSucceed (e : Engine ι) : Prop :=
  ∀ entity action rule, (e.rules entity).find? action = some rule → ∀ caller snapshot,
    (e.evaluator.evaluate rule (Permission.context caller snapshot action)).1.success = true

/-- The texts that a handler is given are the templates of the action, filled one by one. -/
def Call.Fills (root : Value) (call : Call) : Prop :=
  List.Forall₂ (fun template text => ∃ left, Template.Filled root template.toList text.toList left)
    call.action.texts call.invocation.params.texts

/-- A dispatch in which no condition of a workflow it comes to is evaluated with an error, no template of their
actions is misread, and the handler is given nothing but filled templates, by the runs that are only started as
well. -/
structure Dispatch.Unfailing (host : Host ι σ) (delivery : Delivery) (trigger : String) (event : Event)
    (now : Instant) (w : World ι σ) : Prop where
  entries_eq : (run host delivery trigger event now w).1.1.entries =
    (visited host delivery trigger event now w).map fun e =>
      ⟨e.1.name, (visitOne host delivery ⟨trigger, event, event.templateRoot now⟩ event.conditionContext
        e.1 e.2).1.1⟩
  conditions_succeed : ∀ e ∈ visited host delivery trigger event now w, ∀ rule, e.1.condition = some rule →
    (e.2.engine.evaluator.evaluate rule event.conditionContext).1.success = true
  templates_recognized : ∀ e ∈ visited host delivery trigger event now w, ∀ action ∈ e.1.actions,
    ∀ template ∈ action.texts, Template.AllRecognized template.toList
  calls_fill : ∀ call ∈ calls host delivery trigger event now w, call.Fills (event.templateRoot now)
  started_fill : ∀ d ∈ (run host delivery trigger event now w).1.2, ∀ state,
    ∀ call ∈ (d.run (Handler.recording host.handle) ⟨state, []⟩).2.calls,
      call.Fills (event.templateRoot now)

theorem Evaluator.success_of_parse {e : Evaluator} (he : e.Sound) {rule : String} {parsed : Expression}
    (hparse : Expression.parse rule = .ok parsed) (context : Context) :
    (e.evaluate rule context).1.success = true := by
  rw [(answers_evaluate rule context e he).1, Expression.evaluate, hparse]
  rfl

theorem Occurrence.texts_params (o : Occurrence) (action : Action) :
    (o.params action).texts = action.texts.map (Template.fill o.root) := by
  unfold params Action.texts
  cases action.params? with
  | none => rfl
  | some params => exact Template.texts_fillValue o.root params

theorem WorkflowDefinition.Checked.fills {d : WorkflowDefinition} (hd : d.Checked) {o : Occurrence}
    {call : Call} (haction : call.action ∈ (Workflow.ofDefinition d).recognized)
    (hinvocation : call.invocation = o.invocation (.ofDefinition d) call.action) : call.Fills o.root := by
  have hparams : call.invocation.params = o.params call.action := by
    rw [hinvocation]
    rfl
  rw [Call.Fills, hparams, Occurrence.texts_params, List.forall₂_map_right_iff, List.forall₂_same]
  intro template htemplate
  obtain ⟨spec, hspec, hresolved⟩ := List.mem_map.1 (List.mem_filter.1 haction).1
  rw [← hresolved] at htemplate
  have hwell := Template.wellFormed_of_issues_eq_nil (hd.templates spec hspec template htemplate)
  rw [Template.fill, String.toList_ofList]
  exact ⟨_, hwell.filled o.root⟩

theorem Engine.Loaded.rulesSucceed {e : Engine ι} (h : e.Loaded) : e.RulesSucceed := by
  intro entity action rule hrule caller snapshot
  obtain ⟨parsed, hparse⟩ := h.rules entity action rule hrule
  exact Evaluator.success_of_parse h.sound hparse _

theorem Engine.Loaded.unfailing {host : Host ι σ} {w : World ι σ} (h : w.engine.Loaded)
    {trigger : String} {event : Event}
    (hheard : (Dispatch.callListeners host trigger event (w.engine.listenersOf trigger)
      w).2.engine.evaluator.Sound) (delivery : Delivery) (now : Instant) :
    Dispatch.Unfailing host delivery trigger event now w where
  entries_eq := Dispatch.entries_run
  conditions_succeed := by
    intro e he rule hrule
    obtain ⟨hmem, hsound⟩ := Dispatch.of_mem_visits hheard he
    obtain ⟨d, hd, hworkflow⟩ := h.checked_of_mem_matching hmem
    rw [hworkflow] at hrule
    obtain ⟨parsed, hparse⟩ := hd.condition rule hrule
    exact Evaluator.success_of_parse hsound hparse _
  templates_recognized := by
    intro e he action haction template htemplate
    obtain ⟨hmem, -⟩ := Dispatch.of_mem_visits hheard he
    obtain ⟨d, hd, hworkflow⟩ := h.checked_of_mem_matching hmem
    rw [hworkflow] at haction
    obtain ⟨spec, hspec, rfl⟩ := List.mem_map.1 haction
    exact (Template.wellFormed_of_issues_eq_nil (hd.templates spec hspec template htemplate)).allRecognized
  calls_fill := by
    intro call hcall
    obtain ⟨workflow, hmem, haction, hinvocation⟩ := Dispatch.of_mem_calls hcall
    obtain ⟨d, hd, rfl⟩ := h.checked_of_mem_matching hmem
    exact hd.fills haction hinvocation
  started_fill := by
    intro run hrun state call hcall
    obtain ⟨hmem, hoccurrence⟩ := Dispatch.of_mem_started hrun
    obtain ⟨d, hd, hworkflow⟩ := h.checked_of_mem_matching hmem
    rcases Workflow.of_mem_calls_run hcall with hcall | ⟨haction, hinvocation⟩
    · cases hcall
    · rw [hworkflow] at haction hinvocation
      rw [hoccurrence] at hinvocation
      exact hd.fills haction hinvocation

/-- **A manifest that was accepted does not fail later.**  After any history in which rules and workflows were
installed by manifests only, whatever else was done and by whatever listeners, no rule is evaluated with an
error, and no dispatch, as long as its listeners reload nothing, evaluates a condition with an error, misreads a
template or gives its handler anything but filled templates, in which what is left are placeholders whose paths
lead to nothing. -/
theorem unfailing_of_history {host : Host ι σ} (missing : MissingRule) (capacity : Nat) (outside : σ)
    {ops : List (Operation ι σ)} (hops : InstallsByManifest host ⟨.fresh missing capacity, outside⟩ ops) :
    (performAll host ⟨.fresh missing capacity, outside⟩ ops).engine.RulesSucceed ∧
      ∀ delivery trigger event now,
        InstallsByManifest host (performAll host ⟨.fresh missing capacity, outside⟩ ops)
          [.emit delivery trigger event now] →
        Dispatch.Unfailing host delivery trigger event now
          (performAll host ⟨.fresh missing capacity, outside⟩ ops) := by
  have hloaded := Engine.Loaded.performAll hops (.fresh missing capacity)
  generalize performAll host ⟨.fresh missing capacity, outside⟩ ops = w at hloaded ⊢
  refine ⟨hloaded.rulesSucceed, ?_⟩
  intro delivery trigger event now hemit
  -- the listeners are called before the first condition is asked
  have hheard : (Dispatch.callListeners host trigger event (w.engine.listenersOf trigger)
      w).2.engine.evaluator.Sound := by
    cases hemit with
    | emitted hlisteners hinner _ =>
      have hinner := Engine.Loaded.performAll hinner hloaded
      rw [hlisteners] at hinner
      exact hinner.sound
    | quiet ho _ _ => cases ho
  exact hloaded.unfailing hheard delivery now

/-! ### A history with a listener that installs -/

theorem neverReloads_relay : relay.NeverReloads :=
  fun m _ _ _ => ⟨[.apply m], rfl, .apply .nil⟩

/-- A manifest of one rule and one workflow that logs a text with a placeholder. -/
def greeting : Manifest :=
  ⟨Table.empty.insert "task" ⟨Table.empty.insert "read" "isOwner"⟩,
    [((WorkflowDefinition.ofTrigger "greet" "saved").withCondition "entity != 'draft'").withAction
      (.typed "log" (.object [("text", .text "saved: $\x7bentity\x7d, by $\x7buser.name\x7d")]))]⟩

/-- A manifest is installed, a second one by a listener, and a third is refused. -/
def relayed : List (Operation Manifest Unit) :=
  [.apply (.ofRule "task" "read" "false"), .listen "saved" greeting, .emit .awaited "saved" default default,
    .apply (.ofRule "task" "read" "(")]

/-- When the trigger is heard again, the rule and the dispatch do not fail, and the handler gets one text: the
entity is filled in, and the name of the user is left because there is none. -/
theorem unfailing_of_history_relay :
    ((performAll relay ⟨.fresh .deny 1, ()⟩ relayed).engine.evaluator.evaluate "isOwner"
        (Permission.context .anonymous none "read")).1.success = true ∧
      Dispatch.Unfailing relay .awaited "saved" ⟨"task", "7", none, .empty, default, none⟩ default
        (performAll relay ⟨.fresh .deny 1, ()⟩ relayed) ∧
      (Dispatch.calls relay .awaited "saved" ⟨"task", "7", none, .empty, default, none⟩ default
        (performAll relay ⟨.fresh .deny 1, ()⟩ relayed)).map (·.invocation.params.texts) =
          [["saved: task, by $\x7buser.name\x7d"]] := by
  have hops : InstallsByManifest relay ⟨.fresh .deny 1, ()⟩ relayed := by
    apply neverReloads_relay.installsByManifest
    simp [relayed, isReload]
  obtain ⟨hrules, hdispatch⟩ := unfailing_of_history .deny 1 () hops
  refine ⟨hrules "task" "read" "isOwner" ?_ .anonymous none, hdispatch _ _ _ _ ?_, ?_⟩
  · decide +kernel
  · apply neverReloads_relay.installsByManifest
    simp [isReload]
  · decide +kernel

end RecordGate
