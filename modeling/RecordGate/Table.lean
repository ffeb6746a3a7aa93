/-!
# Tables

A table maps names to things and is kept in the code point order of its names, each name once.  That
order is what a reader of a report, of a rendered object or of a list of actions sees.  `Entries` is
the bare list, which a nested value can hold; `Table` is a list with the proof that it is in order.
-/

namespace RecordGate

/-- Names beside what they stand for, in the order they are written. -/
abbrev Entries (α : Type) := List (String × α)

namespace Entries

variable {α β : Type}

/-- What the first entry of a name holds. -/
def find? (name : String) : Entries α → Option α
  | [] => none
  | (key, a) :: rest => if key = name then some a else find? name rest

/-- Put an entry at its place, in place of an earlier one of the same name. -/
def insert (name : String) (a : α) : Entries α → Entries α
  | [] => [(name, a)]
  | (key, b) :: rest =>
    if name < key then (name, a) :: (key, b) :: rest
    else if key = name then (name, a) :: rest
    else (key, b) :: insert name a rest

/-- Enter a list one by one, so that of a repeated name the last entry stays. -/
def sorted (entries : Entries α) : Entries α :=
  entries.foldl (fun es e => insert e.1 e.2 es) []

/-- The entry of a name, if there is something to enter. -/
def optional (name : String) : Option α → Entries α
  | none => []
  | some a => [(name, a)]

/-- Names strictly increase. -/
def Ordered (entries : Entries α) : Prop := entries.Pairwise fun e f => e.1 < f.1

theorem ordered_nil : Ordered ([] : Entries α) := List.Pairwise.nil

theorem mem_insert {name : String} {a : α} {es : Entries α} {e : String × α}
    (h : e ∈ insert name a es) : e = (name, a) ∨ e ∈ es := by
  induction es with
  | nil => simpa [insert] using h
  | cons f rest ih =>
    obtain ⟨key, b⟩ := f
    simp only [insert] at h
    split at h
    · simpa using h
    · split at h
      · rcases List.mem_cons.1 h with h | h
        · exact .inl h
        · exact .inr (List.mem_cons_of_mem _ h)
      · rcases List.mem_cons.1 h with h | h
        · exact .inr (h ▸ List.mem_cons_self)
        · exact (ih h).imp id (List.mem_cons_of_mem _)

theorem ordered_insert (name : String) (a : α) {es : Entries α} (h : Ordered es) :
    Ordered (insert name a es) := by
  induction es with
  | nil => simp [insert, Ordered]
  | cons f rest ih =>
    obtain ⟨key, b⟩ := f
    obtain ⟨hf, hr⟩ := List.pairwise_cons.1 h
    simp only [insert]
    split
    · rename_i hlt
      refine List.pairwise_cons.2 ⟨fun e he => ?_, h⟩
      rcases List.mem_cons.1 he with rfl | he
      · exact hlt
      · exact String.lt_trans hlt (hf e he)
    · split
      · rename_i heq
        subst heq
        exact List.pairwise_cons.2 ⟨hf, hr⟩
      · rename_i hlt hne
        refine List.pairwise_cons.2 ⟨fun e he => ?_, ih hr⟩
        rcases mem_insert he with rfl | he
        · simp only; grind
        · exact hf e he

theorem ordered_foldl_insert (entries : Entries α) {es : Entries α} (h : Ordered es) :
    Ordered (entries.foldl (fun es e => insert e.1 e.2 es) es) := by
  induction entries generalizing es with
  | nil => exact h
  | cons e rest ih => exact ih (ordered_insert e.1 e.2 h)

theorem ordered_sorted (entries : Entries α) : Ordered (sorted entries) :=
  ordered_foldl_insert entries ordered_nil

/-- What comes after all others is entered at the end. -/
theorem insert_of_forall_lt {name : String} {a : α} {es : Entries α} (h : ∀ e ∈ es, e.1 < name) :
    insert name a es = es ++ [(name, a)] := by
  induction es with
  | nil => rfl
  | cons e rest ih =>
    obtain ⟨hfirst, hrest⟩ := List.forall_mem_cons.1 h
    have hlt : ¬ name < e.1 := String.lt_asymm hfirst
    have hne : e.1 ≠ name := by
      intro heq
      rw [heq] at hfirst
      exact String.lt_irrefl _ hfirst
    rw [insert, if_neg hlt, if_neg hne, ih hrest]
    rfl

theorem foldl_insert_of_ordered {entries es : Entries α} (h : Ordered (es ++ entries)) :
    entries.foldl (fun es e => insert e.1 e.2 es) es = es ++ entries := by
  induction entries generalizing es with
  | nil => simp
  | cons e rest ih =>
    have hlast : ∀ f ∈ es, f.1 < e.1 := by
      intro f hf
      exact (List.pairwise_append.1 h).2.2 f hf e List.mem_cons_self
    rw [List.append_cons] at h ⊢
    rw [List.foldl_cons, insert_of_forall_lt hlast, ih h]

/-- A list that is in order is entered as it is. -/
theorem sorted_of_ordered {entries : Entries α} (h : Ordered entries) : sorted entries = entries :=
  foldl_insert_of_ordered h

theorem find?_insert (name other : String) (a : α) (es : Entries α) :
    find? other (insert name a es) = if name = other then some a else find? other es := by
  induction es with
  | nil => simp [insert, find?]
  | cons f rest ih =>
    obtain ⟨key, b⟩ := f
    simp only [insert]
    split
    · simp [find?]
    · split
      · rename_i heq
        subst heq
        by_cases h : key = other <;> simp [find?, h]
      · by_cases h : key = other
        · have : name ≠ other := by grind
          simp [find?, h, this]
        · simp [find?, h, ih]

theorem mem_of_find? {name : String} {a : α} {es : Entries α} (h : find? name es = some a) :
    (name, a) ∈ es := by
  induction es with
  | nil => cases h
  | cons e rest ih =>
    obtain ⟨key, b⟩ := e
    by_cases hkey : key = name
    · subst hkey
      obtain rfl : b = a := by simpa [find?] using h
      exact List.mem_cons_self
    · exact List.mem_cons_of_mem _ (ih (by simpa [find?, hkey] using h))

theorem find?_of_mem {name : String} {a : α} {es : Entries α} (hes : Ordered es) (h : (name, a) ∈ es) :
    find? name es = some a := by
  induction es with
  | nil => cases h
  | cons e rest ih =>
    obtain ⟨key, b⟩ := e
    obtain ⟨hfirst, hrest⟩ := List.pairwise_cons.1 hes
    rcases List.mem_cons.1 h with heq | hmem
    · obtain ⟨rfl, rfl⟩ := Prod.mk.inj heq
      simp [find?]
    · have hlt : key < name := hfirst (name, a) hmem
      have hne : key ≠ name := by
        rintro rfl
        exact String.lt_irrefl _ hlt
      rw [find?, if_neg hne]
      exact ih hrest hmem

theorem nodup_names {es : Entries α} (h : Ordered es) : (es.map Prod.fst).Nodup := by
  refine List.pairwise_map.2 (h.imp ?_)
  intro e f hlt heq
  rw [heq] at hlt
  exact String.lt_irrefl _ hlt

theorem length_insert_le (name : String) (a : α) (es : Entries α) :
    (insert name a es).length ≤ es.length + 1 := by
  induction es with
  | nil => exact Nat.le_refl _
  | cons e rest ih =>
    obtain ⟨key, b⟩ := e
    simp only [insert]
    split
    · exact Nat.le_refl _
    · split
      · exact Nat.le_succ _
      · exact Nat.succ_le_succ ih

theorem find?_map (f : String → α → β) (name : String) (es : Entries α) :
    find? name (es.map fun e => (e.1, f e.1 e.2)) = (find? name es).map (f name) := by
  induction es with
  | nil => rfl
  | cons e rest ih =>
    obtain ⟨key, a⟩ := e
    by_cases h : key = name
    · subst h
      simp [find?]
    · simp [find?, h, ih]

end Entries

/-- Entries in the order of their names, each name once. -/
structure Table (α : Type) where
  entries : Entries α
  ordered : Entries.Ordered entries

namespace Table

variable {α β : Type}

theorem ext {s t : Table α} (h : s.entries = t.entries) : s = t := by
  cases s; cases t; cases h; rfl

def empty : Table α := ⟨[], Entries.ordered_nil⟩

instance : EmptyCollection (Table α) := ⟨empty⟩
instance : Inhabited (Table α) := ⟨empty⟩

def find? (t : Table α) (name : String) : Option α := Entries.find? name t.entries

def contains (t : Table α) (name : String) : Bool := (t.find? name).isSome

def insert (t : Table α) (name : String) (a : α) : Table α :=
  ⟨Entries.insert name a t.entries, Entries.ordered_insert name a t.ordered⟩

/-- The table of a list in which, of a repeated name, the last entry counts. -/
def ofList (entries : Entries α) : Table α := ⟨Entries.sorted entries, Entries.ordered_sorted entries⟩

/-- Change or create the entry of a name. -/
def update (t : Table α) (name : String) (f : Option α → α) : Table α := t.insert name (f (t.find? name))

def names (t : Table α) : List String := t.entries.map Prod.fst

def size (t : Table α) : Nat := t.entries.length

def isEmpty (t : Table α) : Bool := t.entries.isEmpty

/-- The same names with other things. -/
def map (f : String → α → β) (t : Table α) : Table β :=
  ⟨t.entries.map fun e => (e.1, f e.1 e.2), by
    have h := t.ordered
    unfold Entries.Ordered at h ⊢
    rw [List.pairwise_map]
    exact h⟩

/-- The entries of a table make up the table. -/
theorem ofList_entries (t : Table α) : ofList t.entries = t := ext (Entries.sorted_of_ordered t.ordered)

theorem mem_entries_iff {t : Table α} {name : String} {a : α} :
    (name, a) ∈ t.entries ↔ t.find? name = some a :=
  ⟨Entries.find?_of_mem t.ordered, Entries.mem_of_find?⟩

theorem mem_names_iff {t : Table α} {name : String} : name ∈ t.names ↔ (t.find? name).isSome = true := by
  rw [Option.isSome_iff_exists]
  constructor
  · intro h
    obtain ⟨⟨name, a⟩, hmem, rfl⟩ := List.mem_map.1 h
    exact ⟨a, mem_entries_iff.1 hmem⟩
  · rintro ⟨a, hfind⟩
    exact List.mem_map.2 ⟨(name, a), mem_entries_iff.2 hfind, rfl⟩

theorem pairwise_names (t : Table α) : t.names.Pairwise (· < ·) := List.pairwise_map.2 t.ordered

theorem nodup_names (t : Table α) : t.names.Nodup := Entries.nodup_names t.ordered

theorem length_names (t : Table α) : t.names.length = t.size := List.length_map _

theorem size_insert_le (t : Table α) (name : String) (a : α) : (t.insert name a).size ≤ t.size + 1 :=
  Entries.length_insert_le name a t.entries

@[simp] theorem find?_empty (name : String) : (empty : Table α).find? name = none := rfl

@[simp] theorem find?_insert (t : Table α) (name other : String) (a : α) :
    (t.insert name a).find? other = if name = other then some a else t.find? other :=
  Entries.find?_insert name other a t.entries

theorem mem_names_insert {t : Table α} {name other : String} {a : α} :
    other ∈ (t.insert name a).names ↔ other = name ∨ other ∈ t.names := by
  rw [mem_names_iff, mem_names_iff, find?_insert]
  by_cases h : name = other
  · simp [h]
  · simp [h, Ne.symm h]

@[simp] theorem find?_update (t : Table α) (name other : String) (f : Option α → α) :
    (t.update name f).find? other = if name = other then some (f (t.find? name)) else t.find? other :=
  find?_insert t name other (f (t.find? name))

@[simp] theorem find?_map (f : String → α → β) (t : Table α) (name : String) :
    (t.map f).find? name = (t.find? name).map (f name) :=
  Entries.find?_map f name t.entries

/-- Items entered one by one, each behind the others of its name, are found in their order. -/
theorem getD_find?_foldl_update (name : β → String) (item : β → α) (bs : List β) (t : Table (List α))
    (other : String) :
    ((bs.foldl (fun t b => t.update (name b) fun group => group.getD [] ++ [item b]) t).find?
        other).getD [] =
      (t.find? other).getD [] ++ (bs.filter (name · = other)).map item := by
  induction bs generalizing t with
  | nil => simp
  | cons b rest ih =>
    rw [List.foldl_cons, ih, find?_update]
    by_cases h : name b = other
    · rw [if_pos h, List.filter_cons_of_pos (by simpa using h), h]
      simp
    · rw [if_neg h, List.filter_cons_of_neg (by simpa using h)]

/-- Items entered one by one bring in their names and no others. -/
theorem mem_names_foldl_update (name : β → String) (f : β → Option α → α) (bs : List β) (t : Table α)
    (other : String) :
    other ∈ (bs.foldl (fun t b => t.update (name b) (f b)) t).names ↔
      other ∈ t.names ∨ other ∈ bs.map name := by
  induction bs generalizing t with
  | nil => simp
  | cons b rest ih =>
    rw [List.foldl_cons, ih, update, mem_names_insert, List.map_cons, List.mem_cons]
    constructor
    · rintro ((hb | ht) | hrest)
      · exact .inr (.inl hb)
      · exact .inl ht
      · exact .inr (.inr hrest)
    · rintro (ht | hb | hrest)
      · exact .inl (.inr ht)
      · exact .inl (.inl hb)
      · exact .inr hrest

end Table

end RecordGate
