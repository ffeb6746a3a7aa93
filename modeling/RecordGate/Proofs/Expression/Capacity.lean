import Mathlib.Data.List.Dedup
import RecordGate.Proofs.Expression.Memory

/-!
# The capacity of an evaluator

An evaluator that is asked one question after another gives each the answer that is given without memory, and it
never remembers more texts than its capacity.  A text that it does not remember is entered, and if there is no room
left all others are forgotten first.  So what it remembers are the texts of the questions since this happened last.

* `Memory.Parsed` says once what a question does to the memory: nothing, an entry, or an entry in an emptied one.
* `Memory.forgets` compares two memories by the texts in them.  It is seen exactly if there is a capacity, the text is
  new and there is no room (`Memory.forgets_parse_iff`).
* `Evaluator.Holds` is the invariant along a list of questions: the memory has the texts of the questions since the last
  time something was forgotten, each once, and not more of them than its capacity.

Main statement: `Evaluator.bounded_askAll`.
-/

namespace RecordGate

/-! ### Memories -/

namespace Memory

/-- What is left of a memory when a text has been parsed. -/
inductive Parsed (m : Memory) (source : String) : Memory → Prop where
  | disabled (hcapacity : m.capacity = 0) : Parsed m source m
  | known (hknown : source ∈ m.parsed.names) : Parsed m source m
  | entered (hnew : source ∉ m.parsed.names) (hroom : m.size < m.capacity) :
      Parsed m source ⟨m.capacity, m.parsed.insert source (Expression.parse source)⟩
  | emptied (hcapacity : 0 < m.capacity) (hnew : source ∉ m.parsed.names) (hfull : m.capacity ≤ m.size) :
      Parsed m source ⟨m.capacity, Table.empty.insert source (Expression.parse source)⟩

theorem parsed_parse (m : Memory) (source : String) : Parsed m source (m.parse source).2 := by
  unfold Memory.parse
  cases hfind : m.parsed.find? source with
  | some result => exact .known (Table.mem_names_iff.2 (by simp [hfind]))
  | none =>
    have hnew : source ∉ m.parsed.names := by simp [Table.mem_names_iff, hfind]
    dsimp only
    unfold Memory.remember
    by_cases hcapacity : m.capacity = 0
    · rw [if_pos hcapacity]
      exact .disabled hcapacity
    · rw [if_neg hcapacity]
      by_cases hfull : m.capacity ≤ m.size
      · rw [if_pos hfull]
        exact .emptied (Nat.pos_of_ne_zero hcapacity) hnew hfull
      · rw [if_neg hfull]
        exact .entered hnew (Nat.lt_of_not_le hfull)

theorem Parsed.capacity_eq {m m' : Memory} {source : String} (h : Parsed m source m') :
    m'.capacity = m.capacity := by
  cases h <;> rfl

theorem Parsed.mem_names {m m' : Memory} {source : String} (h : Parsed m source m') (hpos : 0 < m.capacity) :
    source ∈ m'.parsed.names := by
  cases h with
  | disabled hcapacity => omega
  | known hknown => exact hknown
  | entered => exact Table.mem_names_insert.2 (.inl rfl)
  | emptied => exact Table.mem_names_insert.2 (.inl rfl)

theorem Parsed.size_le {m m' : Memory} {source : String} (h : Parsed m source m') (hle : m.size ≤ m.capacity) :
    m'.size ≤ m.capacity := by
  cases h with
  | disabled => exact hle
  | known => exact hle
  | entered _ hroom => exact Nat.le_trans (Table.size_insert_le _ _ _) hroom
  | emptied hcapacity => exact hcapacity

/-- Whether something that one memory holds is missing in another. -/
def forgets (m m' : Memory) : Bool := m.parsed.names.any fun source => !m'.parsed.names.contains source

theorem not_forgets {m m' : Memory} (h : ∀ source ∈ m.parsed.names, source ∈ m'.parsed.names) :
    ¬ m.forgets m' = true := by
  rw [Bool.not_eq_true, forgets, List.any_eq_false]
  intro source hmem
  simp [h source hmem]

/-- **A memory forgets something when a new text meets it full**, and then it forgets everything. -/
theorem forgets_parse_iff (m : Memory) (source : String) :
    m.forgets (m.parse source).2 = true ↔
      0 < m.capacity ∧ source ∉ m.parsed.names ∧ m.capacity ≤ m.size := by
  have hparsed := m.parsed_parse source
  generalize (m.parse source).2 = m' at hparsed
  cases hparsed with
  | disabled hcapacity =>
    refine iff_of_false (not_forgets fun _ hmem => hmem) ?_
    rintro ⟨hpos, -, -⟩
    omega
  | known hknown =>
    refine iff_of_false (not_forgets fun _ hmem => hmem) ?_
    rintro ⟨-, hnew, -⟩
    exact hnew hknown
  | entered hnew hroom =>
    refine iff_of_false (not_forgets fun _ hmem => Table.mem_names_insert.2 (.inr hmem)) ?_
    rintro ⟨-, -, hfull⟩
    omega
  | emptied hcapacity hnew hfull =>
    refine iff_of_true ?_ ⟨hcapacity, hnew, hfull⟩
    -- what fills the memory is another text than the one that enters it
    have hlength : 0 < m.parsed.names.length := by
      rw [Table.length_names]
      exact Nat.lt_of_lt_of_le hcapacity hfull
    obtain ⟨other, hother⟩ := List.exists_mem_of_length_pos hlength
    refine List.any_eq_true.2 ⟨other, hother, ?_⟩
    have hmissing : other ∉ (Table.empty.insert source (Expression.parse source)).names := by
      rw [Table.mem_names_insert]
      rintro (rfl | hempty)
      · exact hnew hother
      · cases hempty
    simp [hmissing]

end Memory

/-! ### Questions one after another -/

namespace Evaluator

/-- A rule in a context, asked for its verdict or for whether it passes. -/
inductive Query where
  | evaluate (source : String) (context : Context)
  | test (source : String) (context : Context)

inductive Answer where
  | verdict (v : Verdict)
  | passed (b : Bool)

def Query.source : Query → String
  | evaluate source _ => source
  | test source _ => source

/-- What is answered without any memory. -/
def Query.answer : Query → Answer
  | evaluate source context => .verdict (Expression.evaluate source context)
  | test source context => .passed (Expression.evaluate source context).passed

def ask (e : Evaluator) : Query → Answer × Evaluator
  | .evaluate source context => (.verdict (e.evaluate source context).1, (e.evaluate source context).2)
  | .test source context => (.passed (e.test source context).1, (e.test source context).2)

def askAll (e : Evaluator) : List Query → List Answer × Evaluator
  | [] => ([], e)
  | q :: rest => ((e.ask q).1 :: (askAll (e.ask q).2 rest).1, (askAll (e.ask q).2 rest).2)

/-- The queries since an evaluator forgot something for the last time, the one at which it did included. -/
def sinceForgetting (e : Evaluator) (current : List Query) : List Query → List Query
  | [] => current
  | q :: rest =>
    sinceForgetting (e.ask q).2
      (if e.memory.forgets (e.ask q).2.memory then [q] else current ++ [q]) rest

theorem memory_ask (e : Evaluator) (q : Query) : (e.ask q).2.memory = (e.memory.parse q.source).2 := by
  cases q <;> rfl

theorem Sound.ask {e : Evaluator} (h : e.Sound) (q : Query) :
    (e.ask q).1 = q.answer ∧ (e.ask q).2.Sound := by
  cases q with
  | evaluate source context =>
    obtain ⟨hanswer, hsound⟩ := answers_evaluate source context e h
    exact ⟨congrArg Answer.verdict hanswer, hsound⟩
  | test source context =>
    obtain ⟨hanswer, hsound⟩ := answers_test source context e h
    exact ⟨congrArg Answer.passed hanswer, hsound⟩

theorem Sound.askAll {e : Evaluator} (h : e.Sound) (queries : List Query) :
    (e.askAll queries).1 = queries.map Query.answer ∧ (e.askAll queries).2.Sound := by
  induction queries generalizing e with
  | nil => exact ⟨rfl, h⟩
  | cons q rest ih =>
    obtain ⟨hanswer, hsound⟩ := h.ask q
    obtain ⟨hanswers, hrest⟩ := ih hsound
    exact ⟨congrArg₂ List.cons hanswer hanswers, hrest⟩

theorem askAll_append (e : Evaluator) (earlier later : List Query) :
    (e.askAll (earlier ++ later)).2 = ((e.askAll earlier).2.askAll later).2 := by
  induction earlier generalizing e with
  | nil => rfl
  | cons q rest ih => exact ih _

/-! ### What is remembered -/

/-- An evaluator keeps to its capacity and remembers the texts of the given queries. -/
structure Holds (capacity : Nat) (current : List Query) (e : Evaluator) : Prop where
  capacity_eq : e.memory.capacity = capacity
  size_le : e.memory.size ≤ capacity
  mem_names : 0 < capacity → ∀ source, source ∈ e.memory.parsed.names ↔ source ∈ current.map Query.source

theorem holds_ofCapacity (capacity : Nat) : Holds capacity [] (ofCapacity capacity) where
  capacity_eq := rfl
  size_le := Nat.zero_le _
  mem_names := by
    intro _ source
    exact Iff.rfl

/-- **A query leaves an evaluator holding** what it held and the text of the query, unless it has to forget; then it
holds this text alone. -/
theorem Holds.ask {capacity : Nat} {current : List Query} {e : Evaluator} (h : Holds capacity current e)
    (q : Query) :
    Holds capacity (if e.memory.forgets (e.ask q).2.memory then [q] else current ++ [q]) (e.ask q).2 := by
  obtain ⟨rfl, hsize, hnames⟩ := h
  have hforgets := e.memory.forgets_parse_iff q.source
  have hparsed := e.memory.parsed_parse q.source
  rw [← memory_ask] at hforgets hparsed
  refine ⟨hparsed.capacity_eq, hparsed.size_le hsize, ?_⟩
  intro hpos source
  specialize hnames hpos
  generalize (e.ask q).2.memory = m' at hforgets hparsed ⊢
  cases hparsed with
  | disabled hcapacity => omega
  | known hknown =>
    rw [if_neg fun h => (hforgets.1 h).2.1 hknown, hnames, List.map_append, List.mem_append]
    constructor
    · exact .inl
    · rintro (hmem | hmem)
      · exact hmem
      · rw [List.mem_singleton.1 hmem, ← hnames]
        exact hknown
  | entered hnew hroom =>
    rw [if_neg fun h => Nat.not_le.2 hroom (hforgets.1 h).2.2, Table.mem_names_insert, hnames, List.map_append,
      List.mem_append, List.map_singleton, List.mem_singleton, or_comm]
  | emptied hcapacity hnew hfull =>
    rw [if_pos (hforgets.2 ⟨hcapacity, hnew, hfull⟩), Table.mem_names_insert, List.map_singleton,
      List.mem_singleton]
    constructor
    · rintro (hmem | hmem)
      · exact hmem
      · cases hmem
    · exact .inl

theorem Holds.askAll {capacity : Nat} {current : List Query} {e : Evaluator} (h : Holds capacity current e)
    (queries : List Query) : Holds capacity (e.sinceForgetting current queries) (e.askAll queries).2 := by
  induction queries generalizing e current with
  | nil => exact h
  | cons q rest ih => exact ih (h.ask q)

/-- As many texts are remembered as there are different ones among the queries. -/
theorem Holds.size_eq {capacity : Nat} {current : List Query} {e : Evaluator} (h : Holds capacity current e)
    (hpos : 0 < capacity) : e.memory.size = (current.map Query.source).dedup.length := by
  have hperm : e.memory.parsed.names.Perm (current.map Query.source).dedup := by
    rw [List.perm_ext_iff_of_nodup e.memory.parsed.nodup_names (List.nodup_dedup _)]
    intro source
    rw [List.mem_dedup]
    exact h.mem_names hpos source
  rw [← hperm.length_eq]
  exact (Table.length_names _).symm

/-- What an evaluator of the given capacity has answered, and what it remembers, after some queries. -/
structure Bounded (capacity : Nat) (queries : List Query) (answers : List Answer) (e : Evaluator) : Prop where
  answers : answers = queries.map Query.answer
  sound : ∀ source result, e.memory.parsed.find? source = some result → result = Expression.parse source
  size_le : e.memory.size ≤ capacity
  disabled : capacity = 0 → e.memory.size = 0
  last : 0 < capacity → ∀ earlier q, queries = earlier ++ [q] →
    e.memory.parsed.find? q.source = some (Expression.parse q.source)
  size_eq : 0 < capacity →
    e.memory.size = (((ofCapacity capacity).sinceForgetting [] queries).map Query.source).dedup.length

/-- **Memory is transparent and bounded.**  Whatever a fresh evaluator is asked, each answer is the one that is given
without memory; each text that it then remembers stands beside what parsing it gives.  There are never more of them
than its capacity, so none at all without one.  Otherwise the text of the last query is among them, and they are as
many as there are different texts since something was forgotten. -/
theorem bounded_askAll (capacity : Nat) (queries : List Query) :
    Bounded capacity queries ((ofCapacity capacity).askAll queries).1 ((ofCapacity capacity).askAll queries).2 := by
  obtain ⟨hanswers, hsound⟩ := (sound_ofCapacity capacity).askAll queries
  have hholds := (holds_ofCapacity capacity).askAll queries
  refine ⟨hanswers, hsound, hholds.size_le, ?_, ?_, fun hpos => hholds.size_eq hpos⟩
  · rintro rfl
    exact Nat.le_zero.1 hholds.size_le
  · rintro hpos earlier q rfl
    have hbefore := ((holds_ofCapacity capacity).askAll earlier).capacity_eq
    have hparsed := ((ofCapacity capacity).askAll earlier).2.memory.parsed_parse q.source
    have hlast : ((ofCapacity capacity).askAll (earlier ++ [q])).2.memory =
        (((ofCapacity capacity).askAll earlier).2.memory.parse q.source).2 := by
      rw [askAll_append, ← memory_ask]
      rfl
    rw [← hlast] at hparsed
    have hmem := hparsed.mem_names (hbefore.symm ▸ hpos)
    obtain ⟨result, hfind⟩ := Option.isSome_iff_exists.1 (Table.mem_names_iff.1 hmem)
    rw [hfind, hsound q.source result hfind]

end Evaluator

end RecordGate
