import RecordGate.Proofs.Document.Records
import RecordGate.Proofs.Instant.Stamp

/-!
# Round trips

What is read from the document of a value is written in one form, whatever the form it was read in: a list of fields
is written as an object, a field that was left out is written with its default or not at all, and fields that no
reader looks at are gone.  Writing and reading again therefore changes nothing.

An action is the delicate case, since its three forms overlap: an object under whose `type` a text stands is a kind
with parameters, any other object is kept as it is.  What is kept is written as it is, so it is read in the same
form again, and a kind with parameters is written as an object of these two fields.

Main statement: `round_trips`.
-/

namespace RecordGate

/-! ### Parts of a record -/

theorem Record.exists_value_of_find? {declared : List String} {v : Value} {part : Document} {r : Record}
    {name : String} (hv : v.Ordered) (hr : read? declared (.ofValue v) = some r) (hpart : r.find? name = some part) :
    ∃ w : Value, w.Ordered ∧ .ofValue w = part := by
  cases hv with
  | list hitems =>
    rw [Document.ofValue, read?, Option.ite_none_right_eq_some] at hr
    obtain ⟨-, hr⟩ := hr
    obtain rfl := Option.some.inj hr
    have hmem := (List.of_mem_zip (Entries.mem_of_find? hpart)).2
    rw [Document.ofItems_eq_map] at hmem
    obtain ⟨item, hitem, rfl⟩ := List.mem_map.1 hmem
    exact ⟨item, hitems item hitem, rfl⟩
  | object hnames hfields =>
    rw [Document.ofValue, read?, Option.ite_none_right_eq_some] at hr
    obtain ⟨-, hr⟩ := hr
    obtain rfl := Option.some.inj hr
    have hmem := (List.mem_filter.1 (Entries.mem_of_find? hpart)).1
    rw [Document.ofFields_eq_map] at hmem
    obtain ⟨field, hfield, heq⟩ := List.mem_map.1 hmem
    exact ⟨field.2, hfields field hfield, congrArg Prod.snd heq⟩
  | _ => cases hr

theorem Record.exists_value_of_mem {α : Type} {declared : List String} {v : Value} {r : Record} {name : String}
    {read : Document → Option α} {as : List α} {a : α} (hv : v.Ordered) (hr : read? declared (.ofValue v) = some r)
    (has : r.withDefault name [] (Document.list? read) = some as) (ha : a ∈ as) :
    ∃ item : Value, item.Ordered ∧ read (.ofValue item) = some a := by
  rw [withDefault] at has
  cases hpart : r.find? name with
  | none =>
    rw [hpart] at has
    obtain rfl := Option.some.inj has
    cases ha
  | some part =>
    rw [hpart] at has
    obtain ⟨w, hw, rfl⟩ := exists_value_of_find? hv hr hpart
    cases hw with
    | list hitems =>
      obtain ⟨item, hitem, hread⟩ := Document.exists_of_mem_mapM has ha
      rw [Document.ofItems_eq_map] at hitem
      obtain ⟨u, hu, rfl⟩ := List.mem_map.1 hitem
      exact ⟨u, hitems u hu, hread⟩
    | _ => cases has

/-! ### Actions -/

namespace ActionSpec

theorem toValue_typed (kind : String) (params : Value) :
    (typed kind params).toValue = .object [("params", params), ("type", .text kind)] := by
  have hlt : "params" < "type" := by decide
  simp only [toValue, Value.ofFields, Entries.sorted, List.foldl_cons, List.foldl_nil, Entries.insert, if_pos hlt]

theorem ordered_toValue_typed {params : Value} (hparams : params.Ordered) (kind : String) :
    (typed kind params).toValue.Ordered := by
  have hlt : "params" < "type" := by decide
  rw [toValue_typed]
  refine .object (List.pairwise_pair.2 hlt) ?_
  exact List.forall_mem_cons.2 ⟨hparams, List.forall_mem_singleton.2 (.text kind)⟩

theorem read?_typed {params : Value} (hparams : params.Ordered) (kind : String) :
    read? (.ofValue (typed kind params).toValue) = some (typed kind params) := by
  rw [read?, Document.value?_ofValue (ordered_toValue_typed hparams kind), toValue_typed]
  simp [Document.ofValue, Document.ofFields, kind?, Record.occurrences, Entries.find?, Document.text?, Value.field?]

/-- The document of a value is read as an action that is written as that value, or as a kind with parameters. -/
theorem exists_read?_ofValue {v : Value} (hv : v.Ordered) :
    ∃ s, read? (.ofValue v) = some s ∧ (s.toValue = v ∨ ∃ kind params, s = typed kind params ∧ params.Ordered) := by
  have hvalue := Document.value?_ofValue hv
  cases hv with
  | @object fields hnames hfields =>
    have hparams : (((Value.object fields).field? "params").getD .null).Ordered := by
      cases hfind : (Value.object fields).field? "params" with
      | none => exact .null
      | some params => exact hfields ("params", params) (Entries.mem_of_find? hfind)
    cases hkind : kind? (Document.ofFields fields) with
    | none =>
      refine ⟨other (.object fields), ?_, .inl rfl⟩
      rw [read?, hvalue, Document.ofValue]
      simp only [hkind]
      rfl
    | some kind =>
      refine ⟨typed kind _, ?_, .inr ⟨kind, _, rfl, hparams⟩⟩
      rw [read?, hvalue, Document.ofValue]
      simp only [hkind]
      rfl
  | text s => exact ⟨tag s, rfl, .inl rfl⟩
  | _ =>
    refine ⟨other _, ?_, .inl rfl⟩
    rw [read?, hvalue]
    rfl

/-- **The document of every value is read as an action, and the action is read as written.** -/
theorem exists_survivor {v : Value} (hv : v.Ordered) :
    ∃ s, read? (.ofValue v) = some s ∧ read? (.ofValue s.toValue) = some s := by
  obtain ⟨s, hread, hkept | ⟨kind, params, rfl, hparams⟩⟩ := exists_read?_ofValue hv
  · refine ⟨s, hread, ?_⟩
    rw [hkept]
    exact hread
  · exact ⟨_, hread, read?_typed hparams kind⟩

end ActionSpec

/-! ### Workflows and manifests -/

theorem WorkflowDefinition.read?_toValue {w : WorkflowDefinition}
    (hactions : ∀ s ∈ w.actions, ActionSpec.read? (.ofValue s.toValue) = some s) :
    read? (.ofValue w.toValue) = some w := by
  obtain ⟨name, trigger, condition, actions, isDetached⟩ := w
  have hlist : Document.list? ActionSpec.read? (.ofValue (.list (actions.map ActionSpec.toValue))) = some actions :=
    Document.list?_list ActionSpec.toValue hactions
  obtain ⟨r, hrecord, hfind⟩ := Record.exists_read?_ofValue ["name", "trigger", "condition", "actions", "async"]
    ([("name", .text name), ("trigger", .text trigger), ("actions", .list (actions.map ActionSpec.toValue)),
      ("async", .bool isDetached)] ++ Entries.optional "condition" (condition.map .text))
    (by cases condition <;> simp [Entries.optional]) (by cases condition <;> simp [Entries.optional])
  simp only [Entries.find?_append, Entries.find?_optional, Entries.find?] at hfind
  have hcondition : r.nullable "condition" Document.text? = some condition :=
    Record.nullable_of_find? Value.text (fun _ => rfl) (fun _ => rfl) (by simp [hfind])
  rw [read?, toValue, hrecord]
  simp [Record.required, Record.withDefault, hfind, hlist, hcondition]

/-- A manifest is read as written, if its workflows are. -/
theorem Manifest.read?_toValue {m : Manifest}
    (hworkflows : ∀ w ∈ m.workflows, WorkflowDefinition.read? (.ofValue w.toValue) = some w) :
    read? (.ofValue m.toValue) = some m := by
  have hlist : Document.list? WorkflowDefinition.read?
      (.ofValue (.list (m.workflows.map WorkflowDefinition.toValue))) = some m.workflows :=
    Document.list?_list WorkflowDefinition.toValue hworkflows
  have htable : Document.table? EntityPolicy.read?
      (.ofValue (.ofTable (m.entities.map fun _ => EntityPolicy.toValue))) = some m.entities :=
    Document.table?_ofTable EntityPolicy.toValue fun e _ => EntityPolicy.read?_toValue e.2
  obtain ⟨r, hrecord, hfind⟩ := Record.exists_read?_ofValue ["entities", "workflows"]
    [("entities", .ofTable (m.entities.map fun _ => EntityPolicy.toValue)),
      ("workflows", .list (m.workflows.map WorkflowDefinition.toValue))] (by simp) (by simp)
  rw [read?, toValue, hrecord]
  simp [Record.withDefault, hfind, Entries.find?, hlist, htable]

/-! ### What survives -/

/-- What is read of the document of a value is read again where it is written. -/
def Survives {α : Type} (read? : Document → Option α) (toValue : α → Value) : Prop :=
  ∀ v : Value, v.Ordered → ∀ a, read? (.ofValue v) = some a → read? (.ofValue (toValue a)) = some a

theorem survives_event : Survives Event.read? Event.toValue := by
  intro v hv e he
  rw [Event.read?] at he
  obtain ⟨r, -, he⟩ := Option.bind_eq_some_iff.1 he
  obtain ⟨entity, -, he⟩ := Option.bind_eq_some_iff.1 he
  obtain ⟨entityId, -, he⟩ := Option.bind_eq_some_iff.1 he
  obtain ⟨behavior, -, he⟩ := Option.bind_eq_some_iff.1 he
  obtain ⟨data, hdata, he⟩ := Option.bind_eq_some_iff.1 he
  obtain ⟨timestamp, htimestamp, he⟩ := Option.bind_eq_some_iff.1 he
  obtain ⟨user, -, he⟩ := Option.bind_eq_some_iff.1 he
  obtain rfl := Option.some.inj he
  obtain ⟨stamp, -, hstamp⟩ := Option.bind_eq_some_iff.1 htimestamp
  obtain ⟨text, -, hread⟩ := Option.bind_eq_some_iff.1 hstamp
  refine Event.read?_toValue ?_ (Instant.read?_stamp_of_read? hread)
  rw [Record.withDefault] at hdata
  split at hdata
  next =>
    obtain rfl := Option.some.inj hdata
    intro field hfield
    cases hfield
  next => exact Document.ordered_of_fields? hdata

theorem survives_action : Survives ActionSpec.read? ActionSpec.toValue := by
  intro v hv s hs
  obtain ⟨t, ht, hread⟩ := ActionSpec.exists_survivor hv
  obtain rfl : t = s := Option.some.inj (ht.symm.trans hs)
  exact hread

theorem survives_workflow : Survives WorkflowDefinition.read? WorkflowDefinition.toValue := by
  intro v hv w hw
  apply WorkflowDefinition.read?_toValue
  rw [WorkflowDefinition.read?] at hw
  obtain ⟨r, hr, hw⟩ := Option.bind_eq_some_iff.1 hw
  obtain ⟨name, -, hw⟩ := Option.bind_eq_some_iff.1 hw
  obtain ⟨trigger, -, hw⟩ := Option.bind_eq_some_iff.1 hw
  obtain ⟨condition, -, hw⟩ := Option.bind_eq_some_iff.1 hw
  obtain ⟨actions, hactions, hw⟩ := Option.bind_eq_some_iff.1 hw
  obtain ⟨isDetached, -, hw⟩ := Option.bind_eq_some_iff.1 hw
  obtain rfl := Option.some.inj hw
  intro s hs
  obtain ⟨item, hitem, hread⟩ := Record.exists_value_of_mem hv hr hactions hs
  exact survives_action item hitem s hread

theorem survives_manifest : Survives Manifest.read? Manifest.toValue := by
  intro v hv m hm
  apply Manifest.read?_toValue
  rw [Manifest.read?] at hm
  obtain ⟨r, hr, hm⟩ := Option.bind_eq_some_iff.1 hm
  obtain ⟨entities, -, hm⟩ := Option.bind_eq_some_iff.1 hm
  obtain ⟨workflows, hworkflows, hm⟩ := Option.bind_eq_some_iff.1 hm
  obtain rfl := Option.some.inj hm
  intro w hw
  obtain ⟨item, hitem, hread⟩ := Record.exists_value_of_mem hv hr hworkflows hw
  exact survives_workflow item hitem w hread

/-! ### Values of verdicts -/

theorem truthy_filter_isNull (o : Option Value) :
    Expression.truthy (o.filter fun v => !v.isNull) = Expression.truthy o := by
  rcases o with - | v
  · rfl
  · cases v <;> rfl

theorem filter_isNull_of_ne {o : Option Value} (h : o ≠ some .null) : (o.filter fun v => !v.isNull) = o := by
  rcases o with - | v
  · rfl
  · cases v with
    | null => exact absurd rfl h
    | _ => rfl

/-! ### The round trips -/

/-- **What the gate reads survives being written.**  Values are those of a program, whose objects have each name
once and in order, as every value that is read does.  Every value is read as an action, which is read as written.  A
verdict keeps all but a value of `null`, which is read as a missing one, and passes as before. -/
theorem round_trips :
    Survives User.read? User.toValue ∧ Survives Caller.read? Caller.toValue ∧ Survives Event.read? Event.toValue ∧
      Survives ActionSpec.read? ActionSpec.toValue ∧
      Survives WorkflowDefinition.read? WorkflowDefinition.toValue ∧ Survives RuleSet.read? RuleSet.toValue ∧
      Survives EntityPolicy.read? EntityPolicy.toValue ∧ Survives Manifest.read? Manifest.toValue ∧
      (∀ v : Value, v.Ordered →
        ∃ s, ActionSpec.read? (.ofValue v) = some s ∧ ActionSpec.read? (.ofValue s.toValue) = some s) ∧
      ∀ v : Verdict, (∀ a ∈ v.value, a.Ordered) →
        ∃ w, Verdict.read? (.ofValue v.toValue) = some w ∧ w.success = v.success ∧ w.error = v.error ∧
          w.passed = v.passed ∧ (v.value ≠ some .null → w.value = v.value) := by
  refine ⟨?_, ?_, survives_event, survives_action, survives_workflow, ?_, ?_, survives_manifest, ?_, ?_⟩
  · intro _ _ u _
    exact User.read?_toValue u
  · intro _ _ c _
    exact Caller.read?_toValue c
  · intro _ _ rules _
    exact RuleSet.read?_toValue rules
  · intro _ _ p _
    exact EntityPolicy.read?_toValue p
  · intro v hv
    exact ActionSpec.exists_survivor hv
  · intro v hvalue
    refine ⟨_, Verdict.read?_toValue hvalue, rfl, rfl, ?_, ?_⟩
    · rw [Verdict.passed, Verdict.passed, truthy_filter_isNull]
    · exact filter_isNull_of_ne

/-- A manifest with a workflow written as a list of its fields and with an action in each of the three forms. -/
def auditDeclaration : Value :=
  .object [("workflows", .list [.list [.text "audit", .text "task.created", .null,
    .list [.text "log", .object [("type", .text "webhook"), ("url", .text "/hook")], .object [("type", .null)]]]])]

def declaredAudit : Manifest :=
  ⟨.empty, [⟨"audit", "task.created", none,
    [.tag "log", .typed "webhook" .null, .other (.object [("type", .null)])], false⟩]⟩

theorem round_trips_audit :
    auditDeclaration.Ordered ∧ Manifest.read? (.ofValue auditDeclaration) = some declaredAudit ∧
      Manifest.read? (.ofValue declaredAudit.toValue) = some declaredAudit ∧
      ∃ w, Verdict.read? (.ofValue (Verdict.succeeded (some auditDeclaration)).toValue) = some w ∧
        w.passed = true ∧ w.value = some auditDeclaration := by
  obtain ⟨-, -, -, -, -, -, -, hmanifest, -, hverdict⟩ := round_trips
  have hordered : auditDeclaration.Ordered := Document.ordered_of_value? (.ofValue auditDeclaration) rfl
  have hread : Manifest.read? (.ofValue auditDeclaration) = some declaredAudit := by rfl
  refine ⟨hordered, hread, hmanifest auditDeclaration hordered declaredAudit hread, ?_⟩
  obtain ⟨w, hw, -, -, hpassed, hvalue⟩ := hverdict (.succeeded (some auditDeclaration)) (by
    intro a ha
    obtain rfl := Option.some.inj ha
    exact hordered)
  exact ⟨w, hw, hpassed, hvalue (by rintro ⟨⟩)⟩

end RecordGate
