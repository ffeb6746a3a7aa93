import RecordGate.Expression.Basic

/-!
# Remembering parsed rules

The same few rules are asked again and again, so an evaluator remembers what parsing their texts gave,
errors included.  A memory that is full is emptied before the next text enters it, and a memory of
capacity zero remembers nothing.  What is remembered never changes an answer.
-/

namespace RecordGate

/-- Texts with what parsing them gave. -/
structure Memory where
  capacity : Nat
  parsed : Table (Except Expression.SyntaxError Expression)
  deriving Inhabited

namespace Memory

def ofCapacity (capacity : Nat) : Memory := ⟨capacity, .empty⟩

def size (m : Memory) : Nat := m.parsed.size

/-- Remember a text, in an empty memory if this one is full. -/
def remember (m : Memory) (source : String) (result : Except Expression.SyntaxError Expression) : Memory :=
  if m.capacity = 0 then m
  else
    let kept := if m.capacity ≤ m.size then .empty else m.parsed
    ⟨m.capacity, kept.insert source result⟩

/-- What parsing a text gives, from memory if it is there. -/
def parse (m : Memory) (source : String) : Except Expression.SyntaxError Expression × Memory :=
  match m.parsed.find? source with
  | some result => (result, m)
  | none =>
    let result := Expression.parse source
    (result, m.remember source result)

end Memory

/-- An evaluator answers rules and remembers them. -/
structure Evaluator where
  memory : Memory
  deriving Inhabited

namespace Evaluator

def ofCapacity (capacity : Nat) : Evaluator := ⟨.ofCapacity capacity⟩

def evaluate (e : Evaluator) (source : String) (context : Context) : Verdict × Evaluator :=
  let (result, memory) := e.memory.parse source
  (Expression.verdict result context, ⟨memory⟩)

/-- Whether a rule passes; a rule with an error does not. -/
def test (e : Evaluator) (source : String) (context : Context) : Bool × Evaluator :=
  let (verdict, e) := e.evaluate source context
  (verdict.passed, e)

end Evaluator

end RecordGate
