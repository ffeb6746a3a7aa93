import RecordGate.Proofs.Event.Views
import RecordGate.Proofs.Expression.Mentions

/-!
# Data and identity

The data of an event comes from whoever changed the record, and it may use any names.  A condition that looks at
nothing but what tells the event from others cannot be swayed by it: under these names two events with the same
identity look alike, a verdict depends on the paths in the condition alone, and an evaluator remembers no
contexts.  What data can do is bind further names, each to the value that it has in the data.

`Event.SameIdentity` leaves the data open: two events with the same entity, identifier, user, time and behavior may have
any data.  The name `data` is bound to the whole of the data and is therefore none of the names of the identity.

Main statement: `identity_unaffected_by_data`.
-/

namespace RecordGate

open RecordGate.Expression

namespace Event

/-- Two events that may differ in their data alone. -/
structure SameIdentity (e e' : Event) : Prop where
  entity : e.entity = e'.entity
  entityId : e.entityId = e'.entityId
  user : e.user = e'.user
  timestamp : e.timestamp = e'.timestamp
  behavior : e.behavior = e'.behavior

variable {e e' : Event}

theorem SameIdentity.identity_eq (h : SameIdentity e e') : e.identity = e'.identity := by
  simp only [identity, h.entity, h.entityId, h.user, h.timestamp, h.behavior]

theorem SameIdentity.find?_conditionContext {name : String} (h : SameIdentity e e')
    (hname : name ∈ identityNames) : e.conditionContext.find? name = e'.conditionContext.find? name := by
  rw [← e.map_fst_identity] at hname
  obtain ⟨⟨name, v⟩, hmem, rfl⟩ := List.mem_map.1 hname
  have hmem' : (name, v) ∈ e'.identity := h.identity_eq ▸ hmem
  have hown : (name, v) ∈ e.own := List.mem_append_left _ hmem
  have hown' : (name, v) ∈ e'.own := List.mem_append_left _ hmem'
  rw [find?_conditionContext_of_mem hown, find?_conditionContext_of_mem hown']

/-- A rule about the identity of an event has the same verdict whatever the data is. -/
theorem SameIdentity.evaluate_eq {rule : String} (h : SameIdentity e e')
    (hpaths : ∀ p ∈ mentioned rule, ∃ name ∈ identityNames, p.head? = some name) :
    evaluate rule e.conditionContext = evaluate rule e'.conditionContext := by
  apply evaluate_congr
  intro p hp
  obtain ⟨name, hname, hhead⟩ := hpaths p hp
  have hfound := h.find?_conditionContext hname
  exact Context.resolve?_eq_of_head? hhead hfound

end Event

/-- **Data cannot pass for the event.**  Where each path of a condition starts with `entity`, `entityId`, `user`,
`timestamp` or `behavior`, the condition holds of both or neither of two events that have these in common,
whatever data they carry and whatever the evaluators were asked before.  The context of a condition binds the
names of the event to what they stand for in this event, all other names of its data to the values in the data,
and no other names. -/
theorem identity_unaffected_by_data :
    (∀ e e' : Event, e.SameIdentity e' →
      ∀ condition, (∀ p ∈ mentioned condition, ∃ name ∈ Event.identityNames, p.head? = some name) →
      ∀ capacity earlier capacity' earlier',
        (Workflow.meets (some condition) e.conditionContext (.asked capacity earlier)).1 =
          (Workflow.meets (some condition) e'.conditionContext (.asked capacity' earlier')).1) ∧
    ∀ e : Event,
      (∀ name v, (name, v) ∈ e.own → e.conditionContext.find? name = some v) ∧
      ∀ name, name ∉ Event.ownNames → e.conditionContext.find? name = e.data.find? name := by
  constructor
  · intro e e' hsame condition hpaths capacity earlier capacity' earlier'
    have hmeets := (Workflow.answers_meets (some condition) e.conditionContext).fst_asked capacity earlier
    have hmeets' :=
      (Workflow.answers_meets (some condition) e'.conditionContext).fst_asked capacity' earlier'
    have hverdict := hsame.evaluate_eq hpaths
    rw [hmeets, hmeets', Option.all_some, Option.all_some, hverdict]
  · intro e
    constructor
    · intro name v hmem
      exact Event.find?_conditionContext_of_mem hmem
    · intro name hname
      exact Event.find?_conditionContext_of_not_mem hname

/-- The event whose data claims another identity runs the workflows that it would run without any data; under a
name of its own the data is seen. -/
theorem identity_unaffected_by_data_spoofing :
    (Workflow.meets (some "entity == 'Task' && user.id == 'u1'") Event.spoofing.conditionContext
        (.asked 1 [.meets (some "status == 'paid'") Event.spoofing.conditionContext])).1 =
      (Workflow.meets (some "entity == 'Task' && user.id == 'u1'")
        { Event.spoofing with data := .empty }.conditionContext (.asked 0 [])).1 ∧
    Event.spoofing.conditionContext.find? "entity" = some (.text "Task") ∧
    Event.spoofing.conditionContext.find? "status" = some (.text "paid") := by
  have hsame : Event.spoofing.SameIdentity { Event.spoofing with data := .empty } := ⟨rfl, rfl, rfl, rfl, rfl⟩
  have hpaths : ∀ p ∈ mentioned "entity == 'Task' && user.id == 'u1'",
      ∃ name ∈ Event.identityNames, p.head? = some name := by
    decide +kernel
  obtain ⟨hmeets, hbinds⟩ := identity_unaffected_by_data
  obtain ⟨hown, hother⟩ := hbinds Event.spoofing
  have hentity : ("entity", Value.text "Task") ∈ Event.spoofing.own := List.mem_cons_self
  refine ⟨hmeets _ _ hsame _ hpaths 1 _ 0 [], hown "entity" _ hentity, ?_⟩
  exact hother "status" (by decide)

end RecordGate
