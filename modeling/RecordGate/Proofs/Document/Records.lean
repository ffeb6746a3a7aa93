import RecordGate.Event
import RecordGate.Expression.Verdict
import RecordGate.Manifest.Basic
import RecordGate.Proofs.Document.Values

/-!
# Records and their documents

A record is written as an object with its fields in order.  Reading it finds each field that was written, whatever
the order, and supplies the fields that were left out.  So a user, a caller, an event and a verdict are read as
they were written, and an object of texts is read as the rules it was written for.

* `Record.exists_read?_ofValue` is the one statement about records.  It gives the lookup of every name at once, so that
  each field of each type is read off by the lemma for what the field holds.
* An optional field is read as absent where `null` stands, so that a field that is there must not be written as `null`
  (`Record.nullable_of_find?`).
* Free values are the delicate fields: their members have to be in order to be read as they were written, and what a
  reader returns is in order (`ordered_of_fields?`).

Main statements: `Record.exists_read?_ofValue`, `User.read?_toValue`, `Event.read?_toValue`, `Verdict.read?_toValue`.
-/

namespace RecordGate

/-! ### Fields of a written record -/

namespace Record

theorem occurrences_le_one {name : String} {members : List (String × Document)}
    (hnames : (members.map Prod.fst).Nodup) : occurrences name members ≤ 1 := by
  have hcount := List.nodup_iff_count.1 hnames name
  rwa [List.count, List.countP_map] at hcount

/-- **The fields of a record are found where they were written.** -/
theorem exists_read?_ofValue (declared : List String) (fields : Entries Value)
    (hnames : (fields.map Prod.fst).Nodup) (hdeclared : ∀ name ∈ fields.map Prod.fst, name ∈ declared) :
    ∃ r, read? declared (.ofValue (.ofFields fields)) = some r ∧
      ∀ name, r.find? name = (Entries.find? name fields).map Document.ofValue := by
  have hmembers : Document.ofValue (.ofFields fields) =
      .object ((Entries.sorted fields).map fun e => (e.1, Document.ofValue e.2)) := by
    rw [Value.ofFields, Document.ofValue, Document.ofFields_eq_map]
  have hfst : ((Entries.sorted fields).map fun e => (e.1, Document.ofValue e.2)).map Prod.fst =
      (Entries.sorted fields).map Prod.fst := by
    rw [List.map_map]
    rfl
  have honce : (declared.all fun name => decide (occurrences name
      ((Entries.sorted fields).map fun e => (e.1, Document.ofValue e.2)) ≤ 1)) = true := by
    rw [List.all_eq_true]
    intro name _
    rw [decide_eq_true_eq]
    apply occurrences_le_one
    rw [hfst]
    exact Entries.nodup_names (Entries.ordered_sorted fields)
  rw [hmembers, read?, if_pos honce]
  refine ⟨_, rfl, ?_⟩
  intro name
  rw [find?, List.filter_eq_self.2, Entries.find?_map fun _ => Document.ofValue, Entries.find?_sorted hnames]
  intro m hm
  obtain ⟨e, he, rfl⟩ := List.mem_map.1 hm
  rw [List.contains_iff_mem]
  exact hdeclared _ (List.mem_map_of_mem (Entries.mem_of_mem_sorted he))

/-! ### What a field holds -/

section

variable {α : Type} {read : Document → Option α}

theorem orNull_ofValue (v : Value) :
    orNull read (.ofValue v) = if v.isNull then some none else (read (.ofValue v)).map some := by
  cases v <;> rfl

theorem orNull_ofOption {write : α → Value} (hnull : ∀ a, (write a).isNull = false)
    (hread : ∀ a, read (.ofValue (write a)) = some a) (o : Option α) :
    orNull read (.ofValue (.ofOption write o)) = some o := by
  cases o with
  | none => rfl
  | some a =>
    rw [Value.ofOption, orNull_ofValue, hnull, hread]
    rfl

theorem nullable_of_find? {r : Record} {name : String} (write : α → Value) {o : Option α}
    (hnull : ∀ a, (write a).isNull = false) (hread : ∀ a, read (.ofValue (write a)) = some a)
    (hfind : r.find? name = (o.map write).map .ofValue) : r.nullable name read = some o := by
  rw [nullable, withDefault, hfind]
  cases o with
  | none => rfl
  | some a => exact orNull_ofOption hnull hread (some a)

end

end Record

namespace Document

@[simp] theorem text?_ofValue_text (s : String) : text? (.ofValue (.text s)) = some s := by
  rw [ofValue, text?]

@[simp] theorem bool?_ofValue_bool (b : Bool) : bool? (.ofValue (.bool b)) = some b := by
  rw [ofValue, bool?]

section

variable {α : Type} {read : Document → Option α} (write : α → Value)

theorem table?_ofTable {t : Table α} (h : ∀ e ∈ t.entries, read (.ofValue (write e.2)) = some e.2) :
    table? read (.ofValue (.ofTable (t.map fun _ => write))) = some t := by
  rw [Value.ofTable, ofValue, ofFields_eq_map, Table.map, List.map_map, table?, mapM_map_eq_some]
  · rw [Option.map_some, Table.ofList_entries]
  · intro e he
    rw [Function.comp_apply, h e he]
    rfl

theorem list?_list {as : List α} (h : ∀ a ∈ as, read (.ofValue (write a)) = some a) :
    list? read (.ofValue (.list (as.map write))) = some as := by
  rw [ofValue, ofItems_eq_map, List.map_map, list?, mapM_map_eq_some]
  exact h

end

theorem fields?_ofTable {t : Table Value} (h : ∀ e ∈ t.entries, e.2.Ordered) :
    fields? (.ofValue (.ofTable t)) = some t := by
  have hmap : t.map (fun _ => id) = t := Table.ext (List.map_id _)
  have hread : table? value? (.ofValue (.ofTable (t.map fun _ => id))) = some t :=
    table?_ofTable id fun e he => value?_ofValue (h e he)
  rwa [hmap] at hread

theorem ordered_of_fields? {d : Document} {t : Table Value} (h : fields? d = some t) :
    ∀ e ∈ t.entries, e.2.Ordered := by
  cases d with
  | object members =>
    obtain ⟨entries, hentries, rfl⟩ := Option.map_eq_some_iff.1 h
    intro e he
    obtain ⟨m, -, hm⟩ := exists_of_mem_mapM hentries (Entries.mem_of_mem_sorted he)
    obtain ⟨v, hv, rfl⟩ := Option.map_eq_some_iff.1 hm
    exact ordered_of_value? m.2 hv
  | _ => cases h

end Document

/-! ### Users and callers -/

namespace User

/-- **A user is read as written.** -/
theorem read?_toValue (u : User) : read? (.ofValue u.toValue) = some u := by
  obtain ⟨r, hrecord, hfind⟩ := Record.exists_read?_ofValue ["id", "email", "name", "role", "isActive"]
    [("id", .text u.id), ("email", .text u.email), ("name", .ofOption .text u.name),
      ("role", .text u.role), ("isActive", .bool u.isActive)] (by simp) (by simp)
  have hname : Record.orNull Document.text? (.ofValue (.ofOption .text u.name)) = some u.name :=
    Record.orNull_ofOption (fun _ => rfl) (fun _ => rfl) u.name
  rw [read?, toValue, hrecord]
  simp [Record.required, Record.nullable, Record.withDefault, hfind, Entries.find?, hname]

end User

namespace Caller

/-- **A caller is read as written.** -/
theorem read?_toValue (c : Caller) : read? (.ofValue c.toValue) = some c := by
  obtain ⟨r, hrecord, hfind⟩ := Record.exists_read?_ofValue ["authenticated", "user"]
    [("authenticated", .bool c.authenticated), ("user", .ofOption User.toValue c.user)] (by simp) (by simp)
  have huser : Record.orNull User.read? (.ofValue (.ofOption User.toValue c.user)) = some c.user :=
    Record.orNull_ofOption (fun _ => rfl) User.read?_toValue c.user
  rw [read?, toValue, hrecord]
  simp [Record.required, Record.nullableInList, hfind, Entries.find?, huser]

end Caller

/-! ### Events -/

namespace Event

/-- **An event is read as written**, if its timestamp is and its data is in order. -/
theorem read?_toValue {e : Event} (hdata : ∀ f ∈ e.data.entries, f.2.Ordered)
    (htimestamp : Instant.read? e.timestamp.stamp = some e.timestamp) : read? (.ofValue e.toValue) = some e := by
  obtain ⟨entity, entityId, behavior, data, timestamp, user⟩ := e
  have hfields : Document.fields? (.ofValue (.ofTable data)) = some data := Document.fields?_ofTable hdata
  obtain ⟨r, hrecord, hfind⟩ := Record.exists_read?_ofValue
    ["entity", "entityId", "behavior", "data", "timestamp", "user"]
    ([("entity", .text entity), ("entityId", .text entityId), ("data", .ofTable data),
      ("timestamp", .text timestamp.stamp)]
      ++ Entries.optional "behavior" (behavior.map .text) ++ Entries.optional "user" (user.map User.toValue))
    (by cases behavior <;> cases user <;> simp [Entries.optional])
    (by cases behavior <;> cases user <;> simp [Entries.optional])
  simp only [Entries.find?_append, Entries.find?_optional, Entries.find?] at hfind
  have hbehavior : r.nullable "behavior" Document.text? = some behavior :=
    Record.nullable_of_find? Value.text (fun _ => rfl) (fun _ => rfl) (by simp [hfind])
  have huser : r.nullable "user" User.read? = some user :=
    Record.nullable_of_find? User.toValue (fun _ => rfl) User.read?_toValue (by simp [hfind])
  rw [read?, toValue, hrecord]
  simp [Record.required, Record.withDefault, hfind, hfields, hbehavior, huser, htimestamp]

end Event

/-! ### Verdicts -/

namespace Verdict

/-- **A verdict is read as written**, except that a value of `null` is read as a missing one. -/
theorem read?_toValue {v : Verdict} (hvalue : ∀ a ∈ v.value, a.Ordered) :
    read? (.ofValue v.toValue) = some { v with value := v.value.filter fun a => !a.isNull } := by
  obtain ⟨success, value, error⟩ := v
  obtain ⟨r, hrecord, hfind⟩ := Record.exists_read?_ofValue ["success", "value", "error"]
    (("success", .bool success) :: (Entries.optional "value" value ++ Entries.optional "error" (error.map .text)))
    (by cases value <;> cases error <;> simp [Entries.optional])
    (by cases value <;> cases error <;> simp [Entries.optional])
  simp only [Entries.find?_append, Entries.find?_optional, Entries.find?] at hfind
  have herror : r.nullable "error" Document.text? = some error :=
    Record.nullable_of_find? Value.text (fun _ => rfl) (fun _ => rfl) (by simp [hfind])
  have hread : r.nullable "value" Document.value? = some (value.filter fun a => !a.isNull) := by
    cases value with
    | none => simp [Record.nullable, Record.withDefault, hfind]
    | some a =>
      have hnot : Record.orNull Document.value? (.ofValue a) = some ((some a).filter fun a => !a.isNull) := by
        rw [Record.orNull_ofValue, Document.value?_ofValue (hvalue a rfl)]
        cases hnull : a.isNull <;> simp [Option.filter, hnull]
      simp [Record.nullable, Record.withDefault, hfind, hnot]
  rw [read?, toValue, hrecord]
  simp [Record.required, hfind, hread, herror]

end Verdict

/-! ### Rules -/

/-- **Rules are read as written.** -/
theorem RuleSet.read?_toValue (rules : RuleSet) : read? (.ofValue (toValue rules)) = some rules :=
  Document.table?_ofTable .text fun _ _ => rfl

theorem EntityPolicy.read?_toValue (p : EntityPolicy) : read? (.ofValue p.toValue) = some p := by
  obtain ⟨r, hrecord, hfind⟩ := Record.exists_read?_ofValue ["permissions"]
    [("permissions", RuleSet.toValue p.permissions)] (by simp) (by simp)
  rw [read?, toValue, hrecord]
  simp [Record.withDefault, hfind, Entries.find?, RuleSet.read?_toValue]

end RecordGate
