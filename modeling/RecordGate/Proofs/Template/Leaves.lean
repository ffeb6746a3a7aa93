import Mathlib.Data.List.Lex
import Mathlib.Data.List.Range
import RecordGate.Proofs.Document.Values
import RecordGate.Template.Check

/-!
# The leaves of a parameter tree

A text inside a value is a leaf, and its place is the list of steps that lead to it, as a path has them.  Checking a
value and filling it are two recursions of their own; both are shown to go by the leaves, the one in their order, the
other at their places, and to do with each of them what is done with a template that stands alone.

The list of leaves has each leaf with its place and its text, in the order of the document, where the fields of an
object stand in the order of their names.  A place leads to the text of the leaf that has it, and the places increase
along the list, step by step.  Filling keeps the outline of the value, and fills each leaf where it is.  The findings of
a check are the issues of the leaves, one leaf after another, each with the place of its leaf.

Main statement: `leaf_by_leaf`.
-/

namespace RecordGate

/-- One step goes before another of its kind: to the smaller index, or to the name that comes first. -/
inductive Segment.Before : Segment → Segment → Prop where
  | index {i j : Nat} (h : i < j) : Before (.index i) (.index j)
  | key {k l : String} (h : k < l) : Before (.key k) (.key l)

/-- A text inside a value, with the steps that lead to it. -/
structure Leaf where
  place : List Segment
  text : String

/-- A leaf of a part, as a leaf of the whole. -/
def Leaf.under (s : Segment) (leaf : Leaf) : Leaf := ⟨s :: leaf.place, leaf.text⟩

namespace Value

/-! ### Leaves -/

mutual

/-- The leaves of a value in the order of its document. -/
def leaves : Value → List Leaf
  | .text s => [⟨[], s⟩]
  | .list items => leavesOfItems 0 items
  | .object fields => leavesOfFields fields
  | _ => []

def leavesOfItems (index : Nat) : List Value → List Leaf
  | [] => []
  | v :: rest => v.leaves.map (Leaf.under (.index index)) ++ leavesOfItems (index + 1) rest

def leavesOfFields : Entries Value → List Leaf
  | [] => []
  | (name, v) :: rest => v.leaves.map (Leaf.under (.key name)) ++ leavesOfFields rest

end

theorem leavesOfItems_eq_flatMap (index : Nat) (items : List Value) :
    leavesOfItems index items =
      (items.zipIdx index).flatMap fun e => e.1.leaves.map (Leaf.under (.index e.2)) := by
  induction items generalizing index with
  | nil => rfl
  | cons v rest ih => rw [leavesOfItems, ih, List.zipIdx_cons, List.flatMap_cons]

theorem leavesOfFields_eq_flatMap (fields : Entries Value) :
    leavesOfFields fields = fields.flatMap fun e => e.2.leaves.map (Leaf.under (.key e.1)) := by
  induction fields with
  | nil => rfl
  | cons field rest ih => rw [leavesOfFields, ih, List.flatMap_cons]

theorem mem_map_under {step : Segment} {place : List Segment} {s : String} {parts : List Leaf} :
    ⟨place, s⟩ ∈ parts.map (Leaf.under step) ↔ ∃ rest, place = step :: rest ∧ ⟨rest, s⟩ ∈ parts := by
  constructor
  · intro h
    obtain ⟨leaf, hleaf, heq⟩ := List.mem_map.1 h
    obtain ⟨hplace, htext⟩ := Leaf.mk.inj heq
    exact ⟨leaf.place, hplace.symm, htext ▸ hleaf⟩
  · rintro ⟨rest, rfl, hleaf⟩
    exact List.mem_map.2 ⟨_, hleaf, rfl⟩

theorem mem_leaves_nil {v : Value} {s : String} : ⟨[], s⟩ ∈ v.leaves ↔ v = .text s := by
  cases v with
  | text t => simp [leaves, eq_comm]
  | list items => simp [leaves, leavesOfItems_eq_flatMap, Leaf.under]
  | object fields => simp [leaves, leavesOfFields_eq_flatMap, Leaf.under]
  | null => simp [leaves]
  | bool b => simp [leaves]
  | number n => simp [leaves]

theorem mem_leaves_cons {v : Value} (hv : v.Ordered) {step : Segment} {rest : List Segment} {s : String} :
    ⟨step :: rest, s⟩ ∈ v.leaves ↔ ∃ w, Path.step? v step = some w ∧ ⟨rest, s⟩ ∈ w.leaves := by
  cases hv with
  | @list items hitems =>
    simp only [leaves, leavesOfItems_eq_flatMap, List.mem_flatMap, mem_map_under, List.cons.injEq]
    constructor
    · rintro ⟨⟨w, i⟩, hitem, _, ⟨rfl, rfl⟩, hleaf⟩
      exact ⟨w, List.mem_zipIdx_iff_getElem?.1 hitem, hleaf⟩
    · rintro ⟨w, hstep, hleaf⟩
      cases step with
      | key name => cases hstep
      | index i => exact ⟨(w, i), List.mem_zipIdx_iff_getElem?.2 hstep, rest, ⟨rfl, rfl⟩, hleaf⟩
  | @object fields hnames hfields =>
    simp only [leaves, leavesOfFields_eq_flatMap, List.mem_flatMap, mem_map_under, List.cons.injEq]
    constructor
    · rintro ⟨⟨name, w⟩, hfield, _, ⟨rfl, rfl⟩, hleaf⟩
      exact ⟨w, Entries.find?_of_mem hnames hfield, hleaf⟩
    · rintro ⟨w, hstep, hleaf⟩
      cases step with
      | key name => exact ⟨(name, w), Entries.mem_of_find? hstep, rest, ⟨rfl, rfl⟩, hleaf⟩
      | index i => cases hstep
  | null => cases step <;> simp [leaves, Path.step?, field?, item?]
  | bool b => cases step <;> simp [leaves, Path.step?, field?, item?]
  | number n => cases step <;> simp [leaves, Path.step?, field?, item?]
  | text t => cases step <;> simp [leaves, Path.step?, field?, item?]

theorem Ordered.of_step? {v w : Value} (hv : v.Ordered) {step : Segment} (h : Path.step? v step = some w) :
    w.Ordered := by
  cases step with
  | key name =>
    cases hv with
    | object hnames hfields => exact hfields _ (Entries.mem_of_find? h)
    | _ => cases h
  | index i =>
    cases hv with
    | list hitems => exact hitems w (List.mem_of_getElem? h)
    | _ => cases h

/-- **A leaf is a text where it stands.** -/
theorem mem_leaves_iff {v : Value} (hv : v.Ordered) {place : List Segment} {s : String} :
    ⟨place, s⟩ ∈ v.leaves ↔ Path.descend? place v = some (.text s) := by
  induction place generalizing v with
  | nil => simp [mem_leaves_nil, Path.descend?]
  | cons step rest ih =>
    rw [mem_leaves_cons hv, Path.descend?, Option.bind_eq_some_iff]
    constructor
    · rintro ⟨w, hstep, hleaf⟩
      exact ⟨w, hstep, (ih (hv.of_step? hstep)).1 hleaf⟩
    · rintro ⟨w, hstep, hleaf⟩
      exact ⟨w, hstep, (ih (hv.of_step? hstep)).2 hleaf⟩

/-- The leaves are listed from the first to the last, none of them twice. -/
theorem pairwise_leaves {v : Value} (hv : v.Ordered) :
    v.leaves.Pairwise fun leaf other => List.Lex Segment.Before leaf.place other.place := by
  -- leaves below one step follow one another as they do in the part, those below two steps as the steps do
  have hunder {ls : List Leaf} (h : ls.Pairwise fun leaf other => List.Lex Segment.Before leaf.place other.place)
      (step : Segment) : (ls.map (Leaf.under step)).Pairwise fun leaf other =>
        List.Lex Segment.Before leaf.place other.place :=
    List.pairwise_map.2 (h.imp fun hlex => .cons hlex)
  have hapart {step other : Segment} (h : step.Before other) (ls ms : List Leaf) :
      ∀ leaf ∈ ls.map (Leaf.under step), ∀ leaf' ∈ ms.map (Leaf.under other),
        List.Lex Segment.Before leaf.place leaf'.place := by
    intro leaf hleaf leaf' hleaf'
    obtain ⟨-, -, rfl⟩ := List.mem_map.1 hleaf
    obtain ⟨-, -, rfl⟩ := List.mem_map.1 hleaf'
    exact .rel h
  induction hv with
  | @list items hitems ih =>
    rw [leaves, leavesOfItems_eq_flatMap, List.pairwise_flatMap]
    constructor
    · intro e he
      exact hunder (ih e.1 (List.mem_of_getElem? (List.mem_zipIdx_iff_getElem?.1 he))) _
    · have hindexes : ((items.zipIdx).map Prod.snd).Pairwise (· < ·) := by
        rw [List.zipIdx_map_snd]
        exact List.pairwise_lt_range'
      exact (List.pairwise_map.1 hindexes).imp fun h => hapart (.index h) _ _
  | @object fields hnames hfields ih =>
    rw [leaves, leavesOfFields_eq_flatMap, List.pairwise_flatMap]
    constructor
    · intro e he
      exact hunder (ih e he) _
    · exact hnames.imp fun h => hapart (.key h) _ _
  | text s => exact List.pairwise_singleton _ _
  | null => exact List.Pairwise.nil
  | bool b => exact List.Pairwise.nil
  | number n => exact List.Pairwise.nil

/-! ### Outlines -/

/-- What a value is, but for the wording of texts and for what its elements and fields are. -/
inductive Outline where
  | null
  | bool (b : Bool)
  | number (n : Number)
  | text
  | list (length : Nat)
  | object (names : List String)

def outline : Value → Outline
  | .null => .null
  | .bool b => .bool b
  | .number n => .number n
  | .text _ => .text
  | .list items => .list items.length
  | .object fields => .object (fields.map Prod.fst)

end Value

namespace Template

variable (root : Value)

/-! ### Filling -/

theorem fillItems_eq_map (items : List Value) : fillItems root items = items.map (fillValue root) := by
  induction items with
  | nil => rfl
  | cons v rest ih => rw [fillItems, ih, List.map_cons]

theorem fillFields_eq_map (fields : Entries Value) :
    fillFields root fields = fields.map fun e => (e.1, fillValue root e.2) := by
  induction fields with
  | nil => rfl
  | cons field rest ih => rw [fillFields, ih, List.map_cons]

theorem outline_fillValue (v : Value) : (fillValue root v).outline = v.outline := by
  cases v with
  | list items => simp [fillValue, Value.outline, fillItems_eq_map]
  | object fields => simp [fillValue, Value.outline, fillFields_eq_map, Function.comp_def]
  | null => rfl
  | bool b => rfl
  | number n => rfl
  | text s => rfl

theorem step?_fillValue (v : Value) (step : Segment) :
    Path.step? (fillValue root v) step = (Path.step? v step).map (fillValue root) := by
  cases step with
  | key name =>
    cases v with
    | object fields =>
      rw [fillValue, fillFields_eq_map]
      exact Entries.find?_map (fun _ => fillValue root) name fields
    | _ => rfl
  | index i =>
    cases v with
    | list items =>
      rw [fillValue, fillItems_eq_map]
      exact List.getElem?_map
    | _ => rfl

/-- **Filling goes on at every place.** -/
theorem descend?_fillValue (place : List Segment) (v : Value) :
    Path.descend? place (fillValue root v) = (Path.descend? place v).map (fillValue root) := by
  induction place generalizing v with
  | nil => rfl
  | cons step rest ih =>
    rw [Path.descend?, Path.descend?, step?_fillValue]
    cases hstep : Path.step? v step with
    | none => rfl
    | some w => exact ih w

/-- A leaf with its text filled. -/
def fillLeaf (leaf : Leaf) : Leaf := ⟨leaf.place, fill root leaf.text⟩

theorem map_fillLeaf_under (step : Segment) (ls : List Leaf) :
    (ls.map (fillLeaf root)).map (Leaf.under step) = (ls.map (Leaf.under step)).map (fillLeaf root) := by
  rw [List.map_map, List.map_map]
  rfl

mutual

theorem leaves_fillValue (v : Value) : (fillValue root v).leaves = v.leaves.map (fillLeaf root) := by
  cases v with
  | text s => rfl
  | list items => exact leaves_fillItems 0 items
  | object fields => exact leaves_fillFields fields
  | null => rfl
  | bool b => rfl
  | number n => rfl

theorem leaves_fillItems (index : Nat) (items : List Value) :
    Value.leavesOfItems index (fillItems root items) =
      (Value.leavesOfItems index items).map (fillLeaf root) := by
  cases items with
  | nil => rfl
  | cons v rest =>
    rw [fillItems, Value.leavesOfItems, Value.leavesOfItems, List.map_append, leaves_fillValue v,
      leaves_fillItems _ rest, map_fillLeaf_under]

theorem leaves_fillFields (fields : Entries Value) :
    Value.leavesOfFields (fillFields root fields) = (Value.leavesOfFields fields).map (fillLeaf root) := by
  cases fields with
  | nil => rfl
  | cons field rest =>
    obtain ⟨name, v⟩ := field
    rw [fillFields, Value.leavesOfFields, Value.leavesOfFields, List.map_append, leaves_fillValue v,
      leaves_fillFields rest, map_fillLeaf_under]

end

/-! ### Checking -/

/-- A place as a finding gives it, behind the location of what the place is in. -/
def locate (location : String) : List Segment → String
  | [] => location
  | .key name :: rest => locate (atField location name) rest
  | .index i :: rest => locate (atItem location i) rest

/-- The findings about a leaf. -/
def findingsOf (location : String) (leaf : Leaf) : List Finding :=
  (issues leaf.text).map (⟨locate location leaf.place, ·⟩)

mutual

theorem findingsAt_eq (location : String) (v : Value) :
    findingsAt location v = v.leaves.flatMap (findingsOf location) := by
  cases v with
  | text s => simp [findingsAt, Value.leaves, findingsOf, locate]
  | list items => exact findingsAtItems_eq location 0 items
  | object fields => exact findingsAtFields_eq location fields
  | null => rfl
  | bool b => rfl
  | number n => rfl

theorem findingsAtItems_eq (location : String) (index : Nat) (items : List Value) :
    findingsAtItems location index items =
      (Value.leavesOfItems index items).flatMap (findingsOf location) := by
  cases items with
  | nil => rfl
  | cons v rest =>
    rw [findingsAtItems, Value.leavesOfItems, List.flatMap_append, List.flatMap_map, findingsAt_eq _ v,
      findingsAtItems_eq location _ rest]
    rfl

theorem findingsAtFields_eq (location : String) (fields : Entries Value) :
    findingsAtFields location fields = (Value.leavesOfFields fields).flatMap (findingsOf location) := by
  cases fields with
  | nil => rfl
  | cons field rest =>
    obtain ⟨name, v⟩ := field
    rw [findingsAtFields, Value.leavesOfFields, List.flatMap_append, List.flatMap_map, findingsAt_eq _ v,
      findingsAtFields_eq location rest]
    rfl

end

theorem findings_eq_nil_iff_leaves {v : Value} : findings v = [] ↔ ∀ leaf ∈ v.leaves, issues leaf.text = [] := by
  rw [findings, findingsAt_eq, List.flatMap_eq_nil_iff]
  constructor
  · intro h leaf hleaf
    exact List.map_eq_nil_iff.1 (h leaf hleaf)
  · intro h leaf hleaf
    exact List.map_eq_nil_iff.2 (h leaf hleaf)

/-! ### Both -/

/-- A value is filled and checked by its leaves.  Filling keeps what the value is at every place, and fills the texts;
checking has the issues of these texts one after another, in the order of their places. -/
structure LeafByLeaf (v : Value) : Prop where
  outline_eq : ∀ place, (Path.descend? place (fillValue root v)).map Value.outline =
    (Path.descend? place v).map Value.outline
  text_eq : ∀ place s, Path.descend? place v = some (.text s) →
    Path.descend? place (fillValue root v) = some (.text (fill root s))
  mem_leaves_iff : ∀ place s, ⟨place, s⟩ ∈ v.leaves ↔ Path.descend? place v = some (.text s)
  pairwise_leaves : v.leaves.Pairwise fun leaf other => List.Lex Segment.Before leaf.place other.place
  leaves_fillValue : (fillValue root v).leaves = v.leaves.map fun leaf => ⟨leaf.place, fill root leaf.text⟩
  findings_eq : findings v =
    v.leaves.flatMap fun leaf => (issues leaf.text).map fun issue => ⟨locate "" leaf.place, issue⟩
  findings_eq_nil_iff : findings v = [] ↔
    ∀ place s, Path.descend? place v = some (.text s) → issues s = []

/-- **Parameters are filled and checked leaf by leaf.** -/
theorem leaf_by_leaf {v : Value} (hv : v.Ordered) : LeafByLeaf root v where
  outline_eq := by
    intro place
    rw [descend?_fillValue, Option.map_map]
    congr 1
    funext w
    exact outline_fillValue root w
  text_eq := by
    intro place s hs
    rw [descend?_fillValue, hs]
    rfl
  mem_leaves_iff _ _ := Value.mem_leaves_iff hv
  pairwise_leaves := Value.pairwise_leaves hv
  leaves_fillValue := leaves_fillValue root v
  findings_eq := findingsAt_eq "" v
  findings_eq_nil_iff := by
    rw [findings_eq_nil_iff_leaves]
    constructor
    · intro h place s hs
      exact h ⟨place, s⟩ ((Value.mem_leaves_iff hv).2 hs)
    · rintro h ⟨place, s⟩ hleaf
      exact h place s ((Value.mem_leaves_iff hv).1 hleaf)

/-- Parameters of a mail with a header that is not closed and a recipient that is missing. -/
def malformed : Value :=
  .object [("headers", .object [("X-Id", .text "$\x7bid")]), ("retries", .ofNat 2),
    ("to", .list [.text "$\x7bid\x7d@x.io", .text "$\x7b\x7d"])]

theorem ordered_malformed : malformed.Ordered := by
  have hnames : ([("headers", Value.object [("X-Id", .text "$\x7bid")]), ("retries", .ofNat 2),
      ("to", .list [.text "$\x7bid\x7d@x.io", .text "$\x7b\x7d"])].Pairwise fun e f => e.1 < f.1) := by
    decide +kernel
  refine .object hnames ?_
  simp only [List.forall_mem_cons, List.not_mem_nil, false_implies, implies_true, and_true]
  refine ⟨.object (List.pairwise_singleton _ _) ?_, .number _, .list ?_⟩
  · simpa using Value.Ordered.text _
  · simpa using ⟨Value.Ordered.text _, Value.Ordered.text _⟩

/-- Of three leaves the second is filled, and the two others are reported in the order of their places. -/
theorem leaf_by_leaf_malformed :
    malformed.Ordered ∧
      (findings malformed).map Finding.location = ["headers.X-Id", "to[1]"] ∧
      Path.descend? [.key "to", .index 0] (fillValue (.object [("id", .text "ada")]) malformed) =
        some (.text "ada@x.io") ∧
      ¬ ∀ place s, Path.descend? place malformed = some (.text s) → issues s = [] := by
  have hleaves := leaf_by_leaf (.object [("id", .text "ada")]) ordered_malformed
  have hfindings : (findings malformed).map Finding.location = ["headers.X-Id", "to[1]"] := by decide +kernel
  have hfilled : fill (.object [("id", .text "ada")]) "$\x7bid\x7d@x.io" = "ada@x.io" := by decide +kernel
  refine ⟨ordered_malformed, hfindings, ?_, ?_⟩
  · rw [hleaves.text_eq [.key "to", .index 0] "$\x7bid\x7d@x.io" rfl, hfilled]
  · intro hnone
    rw [hleaves.findings_eq_nil_iff.2 hnone] at hfindings
    cases hfindings

end Template

end RecordGate
