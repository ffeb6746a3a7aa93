import RecordGate.Expression.Evaluator

/-!
# Memory is transparent

An evaluator is sound if everything it remembers of a text is what parsing that text gives.  A fresh
evaluator is sound, and every question leaves it sound, whether the answer came from memory, was entered,
was entered into an emptied memory or was not entered at all.  A sound evaluator gives the verdicts that
are given without any memory.

The memory is bounded, and an evaluator whose memory is full forgets everything before it enters the next text.  Nothing
has to be said about when this happens: forgetting takes entries away, and a sound memory is one all of whose entries
are right.  `Answers` is the form in which later modules use this, for questions of one rule and for questions made of
others.

Main statement: `Evaluator.answers_evaluate`.
-/

namespace RecordGate

/-! ### Memories -/

namespace Memory

/-- What is remembered of a text is what parsing it gives. -/
def Sound (m : Memory) : Prop :=
  ∀ source result, m.parsed.find? source = some result → result = Expression.parse source

variable {m : Memory}

theorem sound_ofCapacity (capacity : Nat) : (ofCapacity capacity).Sound := by
  intro source result h
  cases h

theorem Sound.remember (h : m.Sound) (source : String) :
    (m.remember source (Expression.parse source)).Sound := by
  unfold Memory.remember
  by_cases hc : m.capacity = 0
  · rwa [if_pos hc]
  · rw [if_neg hc]
    intro other result hfind
    simp only [Table.find?_insert] at hfind
    by_cases ho : source = other
    · rw [if_pos ho] at hfind
      exact ho ▸ (Option.some.inj hfind).symm
    · rw [if_neg ho] at hfind
      by_cases hfull : m.capacity ≤ m.size
      · rw [if_pos hfull] at hfind
        cases hfind
      · rw [if_neg hfull] at hfind
        exact h other result hfind

theorem Sound.parse (h : m.Sound) (source : String) :
    (m.parse source).1 = Expression.parse source ∧ (m.parse source).2.Sound := by
  unfold Memory.parse
  cases hfind : m.parsed.find? source with
  | some result => exact ⟨h source result hfind, h⟩
  | none => exact ⟨rfl, h.remember source⟩

end Memory

/-! ### Evaluators -/

namespace Evaluator

def Sound (e : Evaluator) : Prop := e.memory.Sound

theorem sound_ofCapacity (capacity : Nat) : (ofCapacity capacity).Sound :=
  Memory.sound_ofCapacity capacity

/-- Every sound evaluator gives this answer to the question, and stays sound. -/
def Answers {α : Type} (question : Evaluator → α × Evaluator) (a : α) : Prop :=
  ∀ e, Sound e → (question e).1 = a ∧ Sound (question e).2

/-- **Memory never changes a verdict.** -/
theorem answers_evaluate (source : String) (context : Context) :
    Answers (fun e => e.evaluate source context) (Expression.evaluate source context) := by
  intro e he
  obtain ⟨hparse, hsound⟩ := he.parse source
  refine ⟨?_, hsound⟩
  change Expression.verdict (e.memory.parse source).1 context = _
  rw [hparse]
  rfl

theorem answers_test (source : String) (context : Context) :
    Answers (fun e => e.test source context) (Expression.evaluate source context).passed := by
  intro e he
  obtain ⟨hverdict, hsound⟩ := answers_evaluate source context e he
  exact ⟨congrArg Verdict.passed hverdict, hsound⟩

end Evaluator

end RecordGate
