import RecordGate.Document.Record

/-!
# Values and their documents

A document may repeat a name in an object and list the names in any order; the value it stands for has the names in
order and each of them once, in every object inside it.  Such a value is the value of its own document, so what is
written of a value reads as that value.

Main statements: `value?_ofValue`, `ordered_of_value?`.
-/

namespace RecordGate

/-- A value all of whose objects have their fields in order, each name once. -/
inductive Value.Ordered : Value → Prop where
  | null : Ordered .null
  | bool (b : Bool) : Ordered (.bool b)
  | number (n : Number) : Ordered (.number n)
  | text (s : String) : Ordered (.text s)
  | list {items : List Value} (hitems : ∀ v ∈ items, v.Ordered) : Ordered (.list items)
  | object {fields : Entries Value} (hnames : Entries.Ordered fields) (hfields : ∀ e ∈ fields, e.2.Ordered) :
      Ordered (.object fields)

/-! ### Entries that are put in order -/

namespace Entries

variable {α : Type}

theorem mem_foldl_insert {entries es : Entries α} {e : String × α}
    (h : e ∈ entries.foldl (fun es e => insert e.1 e.2 es) es) : e ∈ entries ∨ e ∈ es := by
  induction entries generalizing es with
  | nil => exact .inr h
  | cons f rest ih =>
    rcases ih h with hrest | hes
    · exact .inl (List.mem_cons_of_mem _ hrest)
    · rcases mem_insert hes with rfl | hes
      · exact .inl List.mem_cons_self
      · exact .inr hes

theorem mem_of_mem_sorted {entries : Entries α} {e : String × α} (h : e ∈ sorted entries) : e ∈ entries :=
  (mem_foldl_insert h).resolve_right List.not_mem_nil

theorem find?_eq_none_of_not_mem {name : String} {es : Entries α} (h : name ∉ es.map Prod.fst) :
    find? name es = none := by
  cases hfind : find? name es with
  | none => rfl
  | some a => exact absurd (List.mem_map_of_mem (mem_of_find? hfind)) h

theorem find?_foldl_insert {name : String} {entries es : Entries α} (hnames : (entries.map Prod.fst).Nodup) :
    find? name (entries.foldl (fun es e => insert e.1 e.2 es) es) = (find? name entries).or (find? name es) := by
  induction entries generalizing es with
  | nil => rfl
  | cons e rest ih =>
    obtain ⟨key, a⟩ := e
    rw [List.map_cons, List.nodup_cons] at hnames
    rw [List.foldl_cons, ih hnames.2, find?_insert]
    by_cases hkey : key = name
    · subst hkey
      simp [find?, find?_eq_none_of_not_mem hnames.1]
    · simp [find?, hkey]

theorem find?_sorted {entries : Entries α} (hnames : (entries.map Prod.fst).Nodup) (name : String) :
    find? name (sorted entries) = find? name entries := by
  rw [sorted, find?_foldl_insert hnames, find?, Option.or_none]

theorem find?_append (name : String) (es fs : Entries α) :
    find? name (es ++ fs) = (find? name es).or (find? name fs) := by
  induction es with
  | nil => rfl
  | cons e rest ih =>
    obtain ⟨key, a⟩ := e
    by_cases hkey : key = name <;> simp [find?, hkey, ih]

theorem find?_optional (name other : String) (o : Option α) :
    find? other (optional name o) = if name = other then o else none := by
  cases o <;> simp [optional, find?]

end Entries

namespace Document

/-! ### Items and members, each by each -/

section

variable {α β : Type}

theorem mapM_map_eq_some {read : β → Option α} {write : α → β} {as : List α}
    (h : ∀ a ∈ as, read (write a) = some a) : (as.map write).mapM read = some as := by
  induction as with
  | nil => rfl
  | cons a rest ih =>
    obtain ⟨hfirst, hrest⟩ := List.forall_mem_cons.1 h
    rw [List.map_cons, List.mapM_cons, hfirst, ih hrest]
    rfl

theorem exists_of_mem_mapM {read : β → Option α} {bs : List β} {as : List α} (h : bs.mapM read = some as) {a : α}
    (ha : a ∈ as) : ∃ b ∈ bs, read b = some a := by
  induction bs generalizing as with
  | nil =>
    obtain rfl := Option.some.inj h
    cases ha
  | cons b rest ih =>
    rw [List.mapM_cons] at h
    obtain ⟨first, hfirst, h⟩ := Option.bind_eq_some_iff.1 h
    obtain ⟨others, hothers, h⟩ := Option.bind_eq_some_iff.1 h
    obtain rfl := Option.some.inj h
    rcases List.mem_cons.1 ha with rfl | ha
    · exact ⟨b, List.mem_cons_self, hfirst⟩
    · obtain ⟨c, hc, hread⟩ := ih hothers ha
      exact ⟨c, List.mem_cons_of_mem _ hc, hread⟩

end

theorem ofItems_eq_map (items : List Value) : ofItems items = items.map ofValue := by
  induction items with
  | nil => rfl
  | cons v rest ih => rw [ofItems, ih, List.map_cons]

theorem ofFields_eq_map (fields : Entries Value) : ofFields fields = fields.map fun e => (e.1, ofValue e.2) := by
  induction fields with
  | nil => rfl
  | cons e rest ih => rw [ofFields, ih, List.map_cons]

theorem itemValues?_eq_mapM (items : List Document) : itemValues? items = items.mapM value? := by
  induction items with
  | nil => rfl
  | cons d rest ih => rw [itemValues?, ih, List.mapM_cons]; rfl

theorem memberValues?_eq_mapM (members : List (String × Document)) :
    memberValues? members = members.mapM fun m => (value? m.2).map fun v => (m.1, v) := by
  induction members with
  | nil => rfl
  | cons m rest ih =>
    rw [memberValues?, ih, List.mapM_cons]
    cases value? m.2 <;> rfl

/-! ### From a value to its document and back -/

/-- **A value whose objects are in order is the value of its document.** -/
theorem value?_ofValue {v : Value} (h : v.Ordered) : value? (ofValue v) = some v := by
  induction h with
  | null => rfl
  | bool b => rfl
  | number n => rfl
  | text s => rfl
  | list hitems ih =>
    rw [ofValue, value?, ofItems_eq_map, itemValues?_eq_mapM, mapM_map_eq_some ih]
    rfl
  | object hnames hfields ih =>
    rw [ofValue, value?, ofFields_eq_map, memberValues?_eq_mapM, mapM_map_eq_some]
    · rw [Option.map_some, Value.ofFields, Entries.sorted_of_ordered hnames]
    · intro e he
      rw [ih e he]
      rfl

mutual

/-- **The objects in the value of a document are in order.** -/
theorem ordered_of_value? : (d : Document) → {v : Value} → value? d = some v → v.Ordered
  | null, _, h => Option.some.inj h ▸ .null
  | bool b, _, h => Option.some.inj h ▸ .bool b
  | number n, _, h => Option.some.inj h ▸ .number n
  | text s, _, h => Option.some.inj h ▸ .text s
  | list items, _, h => by
    obtain ⟨vs, hvs, rfl⟩ := Option.map_eq_some_iff.1 h
    exact .list (ordered_of_itemValues? items hvs)
  | object members, _, h => by
    obtain ⟨es, hes, rfl⟩ := Option.map_eq_some_iff.1 h
    refine .object (Entries.ordered_sorted es) ?_
    intro e he
    exact ordered_of_memberValues? members hes e (Entries.mem_of_mem_sorted he)
  | unusable, _, h => by cases h

theorem ordered_of_itemValues? : (items : List Document) → {vs : List Value} → itemValues? items = some vs →
    ∀ v ∈ vs, v.Ordered
  | [], _, h => by
    obtain rfl := Option.some.inj h
    simp
  | d :: rest, _, h => by
    obtain ⟨v, hv, h⟩ := Option.bind_eq_some_iff.1 h
    obtain ⟨vs, hvs, h⟩ := Option.bind_eq_some_iff.1 h
    obtain rfl := Option.some.inj h
    exact List.forall_mem_cons.2 ⟨ordered_of_value? d hv, ordered_of_itemValues? rest hvs⟩

theorem ordered_of_memberValues? : (members : List (String × Document)) → {es : Entries Value} →
    memberValues? members = some es → ∀ e ∈ es, e.2.Ordered
  | [], _, h => by
    obtain rfl := Option.some.inj h
    simp
  | (name, d) :: rest, _, h => by
    obtain ⟨v, hv, h⟩ := Option.bind_eq_some_iff.1 h
    obtain ⟨es, hes, h⟩ := Option.bind_eq_some_iff.1 h
    obtain rfl := Option.some.inj h
    exact List.forall_mem_cons.2 ⟨ordered_of_value? d hv, ordered_of_memberValues? rest hes⟩

end

end Document

end RecordGate
