import Mathlib.Data.List.Pairwise
import RecordGate.Proofs.Engine.Loaded

/-!
# What a version says

The rules and the workflows of an engine have a version each.  An accepted manifest raises both to a common one,
a reload raises that of the workflows alone, and nothing else touches them.  So the two versions are equal just as
long as nothing was reloaded since the last accepted manifest, and a dispatch that reports a version ran against
the one list that was installed under it.

`Unfolds` writes a history out into its moments, in order: every operation with the world it is performed in, and
after an emission the moments of what the listeners do.  What is claimed of an operation is shown once, in
`Moment.after_cases`; what is claimed of a history follows by induction on how one moment leads to the next.

* `Moment.after_cases`: a moment is an accepted manifest, a reload, or leaves the configuration as it was.
* `Leads`: each moment finds the configuration that the one before it left, and an emission itself leaves what it
  found; all that follows is by induction on this relation.
* `Leads.agrees`: two moments that find the same version of the index find the same configuration.
* `Configuration.Reflects`: the rules are not newer than the workflows, and have the same version unless something was
  reloaded since the last accepted manifest.

Main statement: `version_identifies_configuration`.
-/

namespace RecordGate

open Operation

variable {ι σ : Type}

/-! ### Configurations -/

/-- What is installed in an engine. -/
structure Configuration where
  registry : Registry
  index : WorkflowIndex

def Engine.configuration (e : Engine ι) : Configuration := ⟨e.registry, e.index⟩

theorem Dispatch.configuration_visit (host : Host ι σ) (delivery : Delivery) (o : Occurrence)
    (conditions : Context) (workflows : List Workflow) (w : World ι σ) :
    (visit host delivery o conditions workflows w).2.engine.configuration = w.engine.configuration := by
  rw [visit_engine]
  rfl

/-- Some list of workflows was installed, under the version of the index. -/
def Configuration.Built (c : Configuration) : Prop :=
  ∃ definitions, c.index = .build c.index.version definitions

/-! ### Moments -/

def Operation.isEmit : Operation ι σ → Bool
  | emit _ _ _ _ => true
  | _ => false

/-- An operation and the world in which it is performed. -/
structure Moment (ι σ : Type) where
  operation : Operation ι σ
  world : World ι σ

namespace Moment

def before (t : Moment ι σ) : Configuration := t.world.engine.configuration

/-- The configuration that an operation leaves.  An emission leaves the one it finds: what its listeners do are
moments of their own. -/
def after (host : Host ι σ) (t : Moment ι σ) : Configuration :=
  match t.operation with
  | .emit _ _ _ _ => t.before
  | o => (o.perform host t.world).engine.configuration

/-- A manifest is offered and accepted. -/
def IsAccepted (t : Moment ι σ) : Prop :=
  ∃ m version, t.operation = .apply m ∧ (t.world.engine.apply m).1 = .ok version

def IsReload (t : Moment ι σ) : Prop := t.operation.isReload = true

/-- The two ways to install something. -/
def Installs (t : Moment ι σ) : Prop := t.IsAccepted ∨ t.IsReload

/-- If the two moments find the same version, they find the same configuration. -/
def Agrees (s t : Moment ι σ) : Prop :=
  s.before.index.version = t.before.index.version → s.before = t.before

theorem not_isReload_of_isAccepted {t : Moment ι σ} (h : t.IsAccepted) : ¬t.IsReload := by
  obtain ⟨m, version, hoperation, -⟩ := h
  simp [IsReload, hoperation, isReload]

theorem after_of_not_isEmit (host : Host ι σ) {t : Moment ι σ} (h : t.operation.isEmit = false) :
    t.after host = (t.operation.perform host t.world).engine.configuration := by
  obtain ⟨o, w⟩ := t
  cases o <;> first | rfl | cases h

/-- **What an operation does to the configuration.**  An accepted manifest gives rules and workflows one
version, which is past that of the workflows before; a reload raises the version of the workflows and leaves the
rules; any other operation leaves everything. -/
theorem after_cases (host : Host ι σ) (t : Moment ι σ) :
    (t.IsAccepted ∧ (t.after host).registry.version = (t.after host).index.version ∧
        t.before.index.version < (t.after host).index.version ∧ (t.after host).Built) ∨
      (t.IsReload ∧ (t.after host).registry = t.before.registry ∧
        t.before.index.version < (t.after host).index.version ∧ (t.after host).Built) ∨
      (¬t.Installs ∧ t.after host = t.before) := by
  obtain ⟨o, w⟩ := t
  -- an operation of another kind cannot be an installation
  have hother : o.isReload = false → (∀ m, o ≠ .apply m) → ¬Installs ⟨o, w⟩ := by
    rintro hreload happly (⟨m, version, hm, -⟩ | hr)
    · exact happly m hm
    · exact Bool.false_ne_true (hreload.symm.trans hr)
  cases o with
  | apply m =>
    rw [after_of_not_isEmit host rfl, perform]
    cases happly : (w.engine.apply m).1 with
    | ok version =>
      left
      rw [(Engine.apply_eq_ok happly).2]
      exact ⟨⟨m, version, rfl, happly⟩, rfl, w.engine.version_lt_nextVersion.2, m.workflows, rfl⟩
    | error problem =>
      right; right
      rw [Engine.apply_eq_error happly]
      refine ⟨?_, rfl⟩
      rintro (⟨n, version, hn, hversion⟩ | hr)
      · obtain rfl : m = n := Operation.apply.inj hn
        rw [happly] at hversion
        cases hversion
      · cases hr
  | reload workflows => exact .inr (.inl ⟨rfl, rfl, Nat.lt_succ_self _, workflows, rfl⟩)
  | listen trigger listener => exact .inr (.inr ⟨hother rfl (by simp), rfl⟩)
  | check entity caller snapshot action => exact .inr (.inr ⟨hother rfl (by simp), rfl⟩)
  | permitted entity caller records action => exact .inr (.inr ⟨hother rfl (by simp), rfl⟩)
  | allowedActions entity caller snapshot => exact .inr (.inr ⟨hother rfl (by simp), rfl⟩)
  | evaluate rule context => exact .inr (.inr ⟨hother rfl (by simp), rfl⟩)
  | emit delivery trigger event now => exact .inr (.inr ⟨hother rfl (by simp), rfl⟩)
  | outside s => exact .inr (.inr ⟨hother rfl (by simp), rfl⟩)

theorem version_lt_of_installs (host : Host ι σ) {t : Moment ι σ} (h : t.Installs) :
    t.before.index.version < (t.after host).index.version := by
  rcases t.after_cases host with ⟨-, -, hlt, -⟩ | ⟨-, -, hlt, -⟩ | ⟨hnot, -⟩
  · exact hlt
  · exact hlt
  · exact absurd h hnot

theorem after_of_not_installs (host : Host ι σ) {t : Moment ι σ} (h : ¬t.Installs) :
    t.after host = t.before := by
  rcases t.after_cases host with ⟨haccepted, -⟩ | ⟨hreload, -⟩ | ⟨-, hsame⟩
  · exact absurd (.inl haccepted) h
  · exact absurd (.inr hreload) h
  · exact hsame

theorem built_after (host : Host ι σ) {t : Moment ι σ} (h : t.before.Built) : (t.after host).Built := by
  rcases t.after_cases host with ⟨-, -, -, hbuilt⟩ | ⟨-, -, -, hbuilt⟩ | ⟨-, hsame⟩
  · exact hbuilt
  · exact hbuilt
  · rw [hsame]
    exact h

end Moment

/-! ### Histories written out -/

/-- The moments of a list of operations.  Those of an emission's listeners, who do what some operations do, come
after the moment of the emission. -/
inductive Unfolds (host : Host ι σ) : World ι σ → List (Operation ι σ) → List (Moment ι σ) → Prop where
  | nil {w : World ι σ} : Unfolds host w [] []
  | emitted {w : World ι σ} {delivery : Delivery} {trigger : String} {event : Event} {now : Instant}
      {inner ops : List (Operation ι σ)} {during later : List (Moment ι σ)}
      (hlisteners : performAll host w inner =
        (Dispatch.callListeners host trigger event (w.engine.listenersOf trigger) w).2)
      (hinner : Unfolds host w inner during)
      (hrest : Unfolds host ((emit delivery trigger event now).perform host w) ops later) :
      Unfolds host w (.emit delivery trigger event now :: ops)
        (⟨.emit delivery trigger event now, w⟩ :: (during ++ later))
  | plain {w : World ι σ} {o : Operation ι σ} {ops : List (Operation ι σ)} {later : List (Moment ι σ)}
      (ho : o.isEmit = false) (hrest : Unfolds host (o.perform host w) ops later) :
      Unfolds host w (o :: ops) (⟨o, w⟩ :: later)

theorem Accepts.exists_unfolds {host : Host ι σ} {w : World ι σ} {ops : List (Operation ι σ)}
    {ms : List Manifest} (h : Accepts host w ops ms) : ∃ moments, Unfolds host w ops moments := by
  induction h with
  | nil => exact ⟨[], .nil⟩
  | accepted _ _ ih =>
    obtain ⟨later, hlater⟩ := ih
    exact ⟨_, .plain rfl hlater⟩
  | rejected _ _ ih =>
    obtain ⟨later, hlater⟩ := ih
    exact ⟨_, .plain rfl hlater⟩
  | emitted hlisteners _ _ ih_inner ih =>
    obtain ⟨during, hduring⟩ := ih_inner
    obtain ⟨later, hlater⟩ := ih
    exact ⟨_, .emitted hlisteners hduring hlater⟩
  | @quiet w o ops ms ho _ ih =>
    obtain ⟨later, hlater⟩ := ih
    have hemit : o.isEmit = false := by
      cases o <;> first | rfl | cases ho
    exact ⟨_, .plain hemit hlater⟩

/-- Every moment finds the configuration that the one before it left. -/
inductive Leads (host : Host ι σ) : Configuration → List (Moment ι σ) → Configuration → Prop where
  | nil {c : Configuration} : Leads host c [] c
  | cons {t : Moment ι σ} {later : List (Moment ι σ)} {c' : Configuration}
      (hrest : Leads host (t.after host) later c') : Leads host t.before (t :: later) c'

theorem Leads.append {host : Host ι σ} {c c' c'' : Configuration} {ts us : List (Moment ι σ)}
    (h : Leads host c ts c') (h' : Leads host c' us c'') : Leads host c (ts ++ us) c'' := by
  induction h with
  | nil => exact h'
  | cons _ ih => exact .cons (ih h')

/-- Whatever happens to the configuration in a history happens in one of its moments. -/
theorem Unfolds.leads {host : Host ι σ} {w : World ι σ} {ops : List (Operation ι σ)}
    {moments : List (Moment ι σ)} (h : Unfolds host w ops moments) :
    Leads host w.engine.configuration moments (performAll host w ops).engine.configuration := by
  induction h with
  | nil => exact .nil
  | @emitted w delivery trigger event now inner ops during later hlisteners _ _ ih_inner ih =>
    -- after the listeners workflows are visited, by which nothing is installed
    have hvisited : ((emit delivery trigger event now).perform host w).engine.configuration =
        (performAll host w inner).engine.configuration := by
      rw [hlisteners]
      exact Dispatch.configuration_visit host delivery _ _ _ _
    rw [← hvisited] at ih_inner
    refine Leads.cons (t := ⟨.emit delivery trigger event now, w⟩) ?_
    exact ih_inner.append ih
  | @plain w o ops later ho _ ih =>
    refine Leads.cons (t := ⟨o, w⟩) ?_
    rw [Moment.after_of_not_isEmit host ho]
    exact ih

namespace Leads

variable {host : Host ι σ} {c c' : Configuration} {moments : List (Moment ι σ)}

theorem before_eq {t : Moment ι σ} {later : List (Moment ι σ)} (h : Leads host c (t :: later) c') :
    t.before = c := by
  cases h with
  | cons _ => rfl

theorem upTo {earlier later : List (Moment ι σ)} {t : Moment ι σ}
    (h : Leads host c (earlier ++ t :: later) c') : Leads host c earlier t.before := by
  induction earlier generalizing c with
  | nil =>
    rw [h.before_eq]
    exact .nil
  | cons s earlier ih =>
    cases h with
    | cons hrest => exact .cons (ih hrest)

theorem keeps {P : Configuration → Prop} (h : Leads host c moments c')
    (hstep : ∀ t : Moment ι σ, P t.before → P (t.after host)) (hc : P c) : P c' := by
  induction h with
  | nil => exact hc
  | cons _ ih => exact ih (hstep _ hc)

theorem version_le (h : Leads host c moments c') : c.index.version ≤ c'.index.version := by
  refine h.keeps (P := fun d => c.index.version ≤ d.index.version) ?_ le_rfl
  intro t hle
  by_cases ht : t.Installs
  · exact hle.trans (t.version_lt_of_installs host ht).le
  · rw [t.after_of_not_installs host ht]
    exact hle

/-- The configuration is another one only under a higher version. -/
theorem eq_of_version_eq (h : Leads host c moments c') (hversion : c.index.version = c'.index.version) :
    c' = c := by
  induction h with
  | nil => rfl
  | @cons t later c' hrest ih =>
    by_cases ht : t.Installs
    · have hlt := t.version_lt_of_installs host ht
      have hle := hrest.version_le
      omega
    · rw [t.after_of_not_installs host ht] at ih
      exact ih hversion

theorem agrees_of_mem {s t : Moment ι σ} {later : List (Moment ι σ)} (h : Leads host c (s :: later) c')
    (ht : t ∈ later) : s.Agrees t := by
  obtain ⟨between, rest, rfl⟩ := List.append_of_mem ht
  obtain rfl := h.before_eq
  rw [← List.cons_append] at h
  intro hversion
  exact (h.upTo.eq_of_version_eq hversion).symm

/-- A version stands for one configuration throughout a history. -/
theorem agrees (h : Leads host c moments c') : ∀ s ∈ moments, ∀ t ∈ moments, s.Agrees t := by
  have hpairs : moments.Pairwise Moment.Agrees := by
    induction h with
    | nil => exact .nil
    | @cons s later c' hrest ih =>
      refine List.pairwise_cons.2 ⟨?_, ih⟩
      intro t ht
      exact (Leads.cons hrest).agrees_of_mem ht
  have hsymm : Std.Symm (@Moment.Agrees ι σ) :=
    ⟨fun s t hst hversion => (hst hversion.symm).symm⟩
  exact hpairs.forall_of_forall fun s _ _ => rfl

theorem built_before (h : Leads host c moments c') (hc : c.Built) {t : Moment ι σ} (ht : t ∈ moments) :
    t.before.Built := by
  obtain ⟨earlier, later, rfl⟩ := List.append_of_mem ht
  exact h.upTo.keeps (fun s hs => s.built_after host hs) hc

end Leads

/-! ### The two versions -/

/-- Some reload is not followed by an accepted manifest. -/
def ReloadedSinceAccepted (moments : List (Moment ι σ)) : Prop :=
  ∃ earlier t later, moments = earlier ++ t :: later ∧ t.IsReload ∧ ∀ s ∈ later, ¬s.IsAccepted

theorem reloadedSinceAccepted_concat {past : List (Moment ι σ)} {t : Moment ι σ} :
    ReloadedSinceAccepted (past ++ [t]) ↔ t.IsReload ∨ (ReloadedSinceAccepted past ∧ ¬t.IsAccepted) := by
  constructor
  · rintro ⟨earlier, s, later, hmoments, hs, hlater⟩
    rcases concat_eq_append_cons.1 hmoments with ⟨-, rfl, -⟩ | ⟨rest, rfl, rfl⟩
    · exact .inl hs
    · refine .inr ⟨⟨earlier, s, rest, rfl, hs, ?_⟩, hlater t (by simp)⟩
      intro u hu
      exact hlater u (List.mem_append_left _ hu)
  · rintro (ht | ⟨⟨earlier, s, later, rfl, hs, hlater⟩, ht⟩)
    · exact ⟨past, t, [], rfl, ht, by simp⟩
    · refine ⟨earlier, s, later ++ [t], by simp, hs, ?_⟩
      intro u hu
      rcases List.mem_append.1 hu with hu | hu
      · exact hlater u hu
      · obtain rfl := List.mem_singleton.1 hu
        exact ht

/-- The rules are never newer than the workflows, and are older when workflows were reloaded since. -/
structure Configuration.Reflects (past : List (Moment ι σ)) (c : Configuration) : Prop where
  version_le : c.registry.version ≤ c.index.version
  version_eq_iff : c.registry.version = c.index.version ↔ ¬ReloadedSinceAccepted past

namespace Configuration.Reflects

theorem start (missing : MissingRule) (capacity : Nat) :
    (Engine.fresh missing capacity : Engine ι).configuration.Reflects ([] : List (Moment ι σ)) where
  version_le := le_rfl
  version_eq_iff := by
    have hnone : ¬ReloadedSinceAccepted ([] : List (Moment ι σ)) := by
      rintro ⟨earlier, t, later, hmoments, -⟩
      simp at hmoments
    simp [hnone, Engine.configuration, Engine.fresh, WorkflowIndex.empty]

theorem step {past : List (Moment ι σ)} {t : Moment ι σ} (host : Host ι σ) (h : t.before.Reflects past) :
    (t.after host).Reflects (past ++ [t]) := by
  rcases t.after_cases host with ⟨hkind, heq, -, -⟩ | ⟨hkind, hregistry, hlt, -⟩ | ⟨hkind, hsame⟩
  · -- an accepted manifest makes the versions equal, and it is no reload
    have hnone : ¬ReloadedSinceAccepted (past ++ [t]) := by
      rw [reloadedSinceAccepted_concat]
      rintro (hreload | ⟨-, hnot⟩)
      · exact Moment.not_isReload_of_isAccepted hkind hreload
      · exact hnot hkind
    exact ⟨heq.le, iff_of_true heq hnone⟩
  · -- a reload takes the version of the index past that of the rules
    have hless : (t.after host).registry.version < (t.after host).index.version := by
      rw [hregistry]
      exact h.version_le.trans_lt hlt
    have hsome : ReloadedSinceAccepted (past ++ [t]) := reloadedSinceAccepted_concat.2 (.inl hkind)
    exact ⟨hless.le, iff_of_false hless.ne (not_not_intro hsome)⟩
  · have hpast : ReloadedSinceAccepted (past ++ [t]) ↔ ReloadedSinceAccepted past := by
      obtain ⟨haccepted, hreload⟩ := not_or.1 hkind
      simp [reloadedSinceAccepted_concat, haccepted, hreload]
    rw [hsame]
    exact ⟨h.version_le, h.version_eq_iff.trans (not_congr hpast.symm)⟩

theorem leads {host : Host ι σ} {c c' : Configuration} {past moments : List (Moment ι σ)}
    (h : c.Reflects past) (hmoments : Leads host c moments c') : c'.Reflects (past ++ moments) := by
  induction hmoments generalizing past with
  | nil =>
    rw [List.append_nil]
    exact h
  | cons _ ih =>
    rw [List.append_cons]
    exact ih (h.step host)

end Configuration.Reflects

/-! ### Dispatches -/

/-- The moment of an emission, with the report of its dispatch and the workflows that the dispatch comes to. -/
inductive Dispatches (host : Host ι σ) : Moment ι σ → Report → List Workflow → Prop where
  | emit {w : World ι σ} {delivery : Delivery} {trigger : String} {event : Event} {now : Instant} :
      Dispatches host ⟨.emit delivery trigger event now, w⟩
        (Dispatch.run host delivery trigger event now w).1.1
        ((Dispatch.visited host delivery trigger event now w).map Prod.fst)

/-- A dispatch comes to the workflows that its trigger finds when it begins, whatever its listeners install. -/
theorem Dispatches.eq_matching {host : Host ι σ} {t : Moment ι σ} {report : Report}
    {workflows : List Workflow} (h : Dispatches host t report workflows) :
    report.version = t.before.index.version ∧ workflows = t.before.index.matching report.trigger := by
  cases h with
  | emit => exact ⟨rfl, Dispatch.fst_visits host _ _ _ _ _⟩

/-! ### Versions over a history -/

/-- What the versions say in a history that leads from one configuration to another. -/
structure Versioned (host : Host ι σ) (start : Configuration) (moments : List (Moment ι σ))
    (finish : Configuration) : Prop where
  leads : Leads host start moments finish
  version_lt_of_installs : ∀ t ∈ moments, t.Installs →
    t.before.index.version < (t.after host).index.version
  after_of_not_installs : ∀ t ∈ moments, ¬t.Installs → t.after host = t.before
  reflects_before : ∀ earlier t later, moments = earlier ++ t :: later → t.before.Reflects earlier
  reflects_finish : finish.Reflects moments
  agrees : ∀ s ∈ moments, ∀ t ∈ moments, s.Agrees t
  same_list : ∀ s ∈ moments, ∀ t ∈ moments, ∀ report workflows report' workflows',
    Dispatches host s report workflows → Dispatches host t report' workflows' →
    report.version = report'.version →
    ∃ definitions, s.before.index = .build report.version definitions ∧
      t.before.index = .build report.version definitions ∧
      workflows = (definitions.filter (·.trigger = report.trigger)).map Workflow.ofDefinition ∧
      workflows' = (definitions.filter (·.trigger = report'.trigger)).map Workflow.ofDefinition

theorem Leads.versioned {host : Host ι σ} {start finish : Configuration} {moments : List (Moment ι σ)}
    (h : Leads host start moments finish) (hbuilt : start.Built)
    (hstart : start.Reflects ([] : List (Moment ι σ))) : Versioned host start moments finish where
  leads := h
  version_lt_of_installs := fun t _ => t.version_lt_of_installs host
  after_of_not_installs := fun t _ => t.after_of_not_installs host
  reflects_before := by
    rintro earlier t later rfl
    exact hstart.leads h.upTo
  reflects_finish := hstart.leads h
  agrees := h.agrees
  same_list := by
    intro s hs t ht report workflows report' workflows' hreport hreport' hversion
    obtain ⟨hfirst, hworkflows⟩ := hreport.eq_matching
    obtain ⟨hsecond, hworkflows'⟩ := hreport'.eq_matching
    have hsame : s.before = t.before :=
      h.agrees s hs t ht (hfirst.symm.trans (hversion.trans hsecond))
    obtain ⟨definitions, hdefinitions⟩ := h.built_before hbuilt hs
    rw [← hfirst] at hdefinitions
    refine ⟨definitions, hdefinitions, hsame ▸ hdefinitions, ?_, ?_⟩
    · rw [hworkflows, hdefinitions, WorkflowIndex.matching_build_eq]
    · rw [hworkflows', ← hsame, hdefinitions, WorkflowIndex.matching_build_eq]

/-- **A version identifies what is installed.**  Every history of an engine, what its listeners do included, can
be written out, and then: the version of the workflows rises at every accepted manifest and every reload and at
nothing else; that of the rules never exceeds it, and equals it just when nothing was reloaded since the last
accepted manifest; and dispatches that report one version ran against one list of workflows. -/
theorem version_identifies_configuration {host : Host ι σ} (hhost : host.UsesOperations)
    (missing : MissingRule) (capacity : Nat) (outside : σ) (ops : List (Operation ι σ)) :
    (∃ moments, Unfolds host ⟨.fresh missing capacity, outside⟩ ops moments) ∧
    ∀ moments, Unfolds host ⟨.fresh missing capacity, outside⟩ ops moments →
      Versioned host (Engine.fresh missing capacity : Engine ι).configuration moments
        (performAll host ⟨.fresh missing capacity, outside⟩ ops).engine.configuration := by
  constructor
  · obtain ⟨ms, hms⟩ := hhost.exists_accepts ops ⟨.fresh missing capacity, outside⟩
    exact hms.exists_unfolds
  · intro moments hmoments
    exact hmoments.leads.versioned ⟨[], rfl⟩ (.start missing capacity)

/-! ### A reload after a listener's manifest -/

theorem performAll_relay (trigger : String) (event : Event) (ms : List Manifest) (w : World Manifest Unit) :
    performAll relay w (ms.map .apply) = (Dispatch.callListeners relay trigger event ms w).2 := by
  induction ms generalizing w with
  | nil => rfl
  | cons m rest ih =>
    rw [Dispatch.callListeners_cons]
    exact ih _

theorem Unfolds.emitted_relay {w : World Manifest Unit} {delivery : Delivery} {trigger : String}
    {event : Event} {now : Instant} {ops : List (Operation Manifest Unit)}
    {later : List (Moment Manifest Unit)} (ms : List Manifest) (during : List (Moment Manifest Unit))
    (hms : w.engine.listenersOf trigger = ms) (hinner : Unfolds relay w (ms.map .apply) during)
    (hrest : Unfolds relay ((emit delivery trigger event now).perform relay w) ops later) :
    Unfolds relay w (.emit delivery trigger event now :: ops)
      (⟨.emit delivery trigger event now, w⟩ :: (during ++ later)) := by
  refine .emitted ?_ hinner hrest
  rw [hms]
  exact performAll_relay trigger event ms w

/-- A workflow is reloaded, an event is emitted to it, and another one to a listener, who installs a manifest; then
all workflows are dropped. -/
def rotated : List (Operation Manifest Unit) :=
  [.listen "saved" greeting, .reload [.ofTrigger "audit" "closed"], .emit .awaited "closed" default default,
    .emit .awaited "saved" default default, .reload []]

/-- The history has six moments, as the listener has one; the second reload came after the manifest, so that the
rules are older than the workflows at the end. -/
theorem version_identifies_configuration_relay :
    ∃ moments, Unfolds relay ⟨.fresh .deny 1, ()⟩ rotated moments ∧ moments.length = 6 ∧
      (performAll relay ⟨.fresh .deny 1, ()⟩ rotated).engine.configuration.registry.version <
        (performAll relay ⟨.fresh .deny 1, ()⟩ rotated).engine.configuration.index.version := by
  have hmoments : ∃ first second third fourth fifth sixth, Unfolds relay ⟨.fresh .deny 1, ()⟩ rotated
      [first, second, third, fourth, fifth, ⟨.reload [], sixth⟩] := by
    refine ⟨_, _, _, _, _, _, .plain rfl (.plain rfl (.emitted_relay [] [] ?_ .nil
      (.emitted_relay [greeting] [_] ?_ (.plain rfl .nil) (.plain rfl .nil))))⟩
    · rfl
    · rfl
  obtain ⟨first, second, third, fourth, fifth, sixth, hmoments⟩ := hmoments
  have hversioned :=
    (version_identifies_configuration usesOperations_relay .deny 1 () rotated).2 _ hmoments
  refine ⟨_, hmoments, rfl, ?_⟩
  have hreloaded : ReloadedSinceAccepted [first, second, third, fourth, fifth, ⟨.reload [], sixth⟩] :=
    ⟨[first, second, third, fourth, fifth], _, [], rfl, rfl, by simp⟩
  have hne := mt hversioned.reflects_finish.version_eq_iff.1 (not_not_intro hreloaded)
  exact lt_of_le_of_ne hversioned.reflects_finish.version_le hne

end RecordGate
