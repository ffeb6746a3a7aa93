import RecordGate.Proofs.Expression.Paths
import RecordGate.Proofs.Permission.Answers

/-!
# Absent data

Data may be missing: a context may lack a name, a record may lack a field.  What a positive rule denies, it
still denies when less is known: names taken out of a context and fields taken out of a record never grant
anything.  Negation and comparisons of compound operands are excluded, because a negation turns what is
missing into what is true.

Contexts are compared at the paths of the rule: `Context.PartOf` says that the one has at each of them what the other
has, or nothing.  Names taken out of a context leave a part of it, and so do fields taken out of a record, as far as the
rule reads the record by `entity` and a field (`ReadsField`).  What a part passes the whole passes, by induction on the
tree; the statement about denials is the same one read the other way.

Main statement: `passed_of_passed_in_part`.
-/

namespace RecordGate

/-! ### Taking names out -/

namespace Table

variable {α : Type}

/-- A table without the given names. -/
def without (names : List String) (t : Table α) : Table α :=
  ⟨t.entries.filter fun e => !names.contains e.1, t.ordered.filter _⟩

theorem find?_without (names : List String) (t : Table α) (name : String) :
    (t.without names).find? name = if name ∈ names then none else t.find? name := by
  suffices h : ∀ es : Entries α, Entries.find? name (es.filter fun e => !names.contains e.1) =
      if name ∈ names then none else Entries.find? name es from h t.entries
  intro es
  induction es with
  | nil => simp [Entries.find?]
  | cons e rest ih =>
    obtain ⟨key, a⟩ := e
    by_cases hkey : key = name
    · subst hkey
      by_cases hmem : key ∈ names
      · simpa [hmem] using ih
      · simp [hmem, Entries.find?]
    · by_cases hmem : key ∈ names
      · simpa [hmem, Entries.find?, hkey] using ih
      · simpa [hmem, Entries.find?, hkey] using ih

end Table

/-- A context without the given names. -/
def Context.without (names : List String) (c : Context) : Context := ⟨c.values.without names⟩

theorem Context.partOf_without (paths : List Path) (names : List String) (c : Context) :
    PartOf paths (c.without names) c := by
  intro p _
  obtain ⟨segments⟩ := p
  cases segments with
  | nil => exact .inl rfl
  | cons segment rest =>
    cases segment with
    | index i => exact .inl rfl
    | key name =>
      by_cases hmem : name ∈ names
      · left
        simp [resolve?, Path.resolveIn?, without, Table.find?_without, hmem]
      · right
        simp [resolve?, Path.resolveIn?, without, Table.find?_without, hmem]

namespace Permission

/-- A path to one of the given fields of the record, or into one. -/
def ReadsField (names : List String) (p : Path) : Prop :=
  ∃ field rest, field ∈ names ∧ p.segments = .key "entity" :: .key field :: rest

theorem context_entity (caller : Caller) (snapshot : Option Snapshot) (action : String) :
    (context caller snapshot action).find? "entity" = some (.ofOption .ofTable snapshot) := by
  simp [context, Context.find?, Context.bind]

theorem resolve?_field (caller : Caller) (snapshot : Option Snapshot) (action field : String) :
    (context caller snapshot action).resolve? ⟨[.key "entity", .key field]⟩ =
      snapshot.bind (·.find? field) := by
  rw [Context.resolve?_key, context_entity]
  cases snapshot with
  | none => rfl
  | some record =>
    simp [Value.ofOption, Path.descend?, Path.step?, Value.ofTable, Value.field?, Table.find?]

theorem resolve?_of_readsField {names : List String} {p : Path} (h : ReadsField names p)
    (caller : Caller) (record : Snapshot) (action : String) :
    (context caller (some (record.without names)) action).resolve? p = none := by
  obtain ⟨field, rest, hmem, hp⟩ := h
  have hfind := context_entity caller (some (record.without names)) action
  have hfield : (Value.ofTable (record.without names)).field? field = none := by
    change (record.without names).find? field = none
    rw [Table.find?_without, if_pos hmem]
  change (context caller (some (record.without names)) action).values.find? "entity" = _ at hfind
  simp [Context.resolve?, Path.resolveIn?, hp, hfind, Value.ofOption, Path.descend?, Path.step?, hfield]

end Permission

/-! ### Denials -/

namespace Expression

variable {source : String} {e : Expression}

theorem passed_of_partOf (hparse : parse source = .ok e) (hpos : e.tree.isPositive = true)
    {c c' : Context} (h : Context.PartOf e.tree.paths c c')
    (hpassed : (evaluate source c).passed = true) : (evaluate source c').passed = true := by
  rw [passed_evaluate_of_parse hparse] at hpassed ⊢
  exact Tree.truthy_eval_of_partOf hpos h hpassed

theorem denied_of_partOf (hparse : parse source = .ok e) (hpos : e.tree.isPositive = true)
    {c c' : Context} (h : Context.PartOf e.tree.paths c c')
    (hdenied : (evaluate source c').passed = false) : (evaluate source c).passed = false := by
  rw [← Bool.not_eq_true] at hdenied ⊢
  intro hpassed
  exact hdenied (passed_of_partOf hparse hpos h hpassed)

/-- **Absent data never grants.**  Take a rule whose tree is positive.  If it passes in a context, it passes
in every context that has the same at each of its paths where the first has anything.  So it passes in no
context made smaller by names if it did not pass before; and the gate, whatever its evaluator remembers,
still denies an action on a record that has lost fields if it denied it on the whole record and the paths
of the rule that read none of these fields lead where they led. -/
theorem passed_of_passed_in_part (hparse : parse source = .ok e) (hpos : e.tree.isPositive = true) :
    (∀ c c', Context.PartOf e.tree.paths c c' →
      (evaluate source c).passed = true → (evaluate source c').passed = true) ∧
    (∀ names c, (evaluate source c).passed = false →
      (evaluate source (c.without names)).passed = false) ∧
    ∀ missing rules caller record names action,
      Table.find? rules action = some source →
      (∀ p ∈ e.tree.paths, ¬ Permission.ReadsField names p →
        (Permission.context caller (some (Table.without names record)) action).resolve? p =
          (Permission.context caller (some record) action).resolve? p) →
      ∀ evaluator evaluator', evaluator.Sound → evaluator'.Sound →
        (Permission.check missing rules caller (some record) action evaluator).1 = false →
        (Permission.check missing rules caller (some (record.without names)) action evaluator').1 =
          false := by
  refine ⟨?_, ?_, ?_⟩
  · intro c c' h hpassed
    exact passed_of_partOf hparse hpos h hpassed
  · intro names c hdenied
    exact denied_of_partOf hparse hpos (Context.partOf_without _ names c) hdenied
  · intro missing rules caller record names action hrule hsame evaluator evaluator' hsound hsound' hdenied
    have hwhole := (Permission.answers_check missing rules caller (some record) action) _ hsound
    have hpart :=
      (Permission.answers_check missing rules caller (some (record.without names)) action) _ hsound'
    rw [hwhole.1, Permission.decides, hrule] at hdenied
    rw [hpart.1, Permission.decides, hrule]
    refine denied_of_partOf hparse hpos ?_ hdenied
    intro p hp
    by_cases hreads : Permission.ReadsField names p
    · exact .inl (Permission.resolve?_of_readsField hreads caller record action)
    · exact .inr (hsame p hp hreads)

/-- A rule that asks for another stage than one passes where there is a stage, also when more is known; it
denies a closed record, and denies it still when the stage is gone. -/
theorem passed_of_passed_in_part_stage :
    ((evaluate "isAdmin || entity.stage != 'closed'"
        (.bind .empty "entity" (.object [("stage", .text "open")]))).passed = true ∧
      (evaluate "isAdmin || entity.stage != 'closed'"
        (.bind (.bind .empty "entity" (.object [("stage", .text "open")])) "isAdmin"
          (.bool false))).passed = true) ∧
    (Permission.check .allow (.insert .empty "edit" "isAdmin || entity.stage != 'closed'") .anonymous
        (some (.insert .empty "stage" (.text "closed"))) "edit" (.ofCapacity 0)).1 = false ∧
      (Permission.check .allow (.insert .empty "edit" "isAdmin || entity.stage != 'closed'") .anonymous
        (some (Table.without ["stage"] (.insert .empty "stage" (.text "closed")))) "edit"
        (.ofCapacity 8)).1 = false := by
  have hshape : (parse "isAdmin || entity.stage != 'closed'").toOption.map
      (fun e => (e.tree.isPositive, e.tree.paths)) =
        some (true, [⟨[.key "isAdmin"]⟩, ⟨[.key "entity", .key "stage"]⟩]) := by decide +kernel
  cases hparse : parse "isAdmin || entity.stage != 'closed'" with
  | error e =>
    rw [hparse] at hshape
    cases hshape
  | ok e =>
    rw [hparse] at hshape
    obtain ⟨hpos, hpaths⟩ := Prod.mk.inj (Option.some.inj hshape)
    obtain ⟨hgrow, -, hshrink⟩ := passed_of_passed_in_part hparse hpos
    have hopen : (evaluate "isAdmin || entity.stage != 'closed'"
        (.bind .empty "entity" (.object [("stage", .text "open")]))).passed = true := by decide +kernel
    have hclosed : (Permission.check .allow (.insert .empty "edit" "isAdmin || entity.stage != 'closed'")
        .anonymous (some (.insert .empty "stage" (.text "closed"))) "edit" (.ofCapacity 0)).1 = false := by
      decide +kernel
    rw [hpaths] at hgrow hshrink
    refine ⟨⟨hopen, hgrow _ _ ?_ hopen⟩, hclosed, hshrink _ _ _ _ _ _ rfl ?_ _ _
      (Evaluator.sound_ofCapacity 0) (Evaluator.sound_ofCapacity 8) hclosed⟩
    · intro p hp
      rcases List.mem_cons.1 hp with rfl | hp
      · exact .inl rfl
      · obtain rfl := List.mem_singleton.1 hp
        exact .inr rfl
    · intro p hp hreads
      rcases List.mem_cons.1 hp with rfl | hp
      · rfl
      · obtain rfl := List.mem_singleton.1 hp
        exact absurd ⟨"stage", [], List.mem_singleton.2 rfl, rfl⟩ hreads

end Expression

end RecordGate
