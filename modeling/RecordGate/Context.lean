import RecordGate.Path

/-!
# Contexts

A context binds the names that an expression may mention.  It is built once per question and only
read after that.
-/

namespace RecordGate

/-- The names an expression may mention, with their values. -/
structure Context where
  values : Table Value
  deriving Inhabited

namespace Context

def empty : Context := ⟨.empty⟩

/-- Bind a name, in place of an earlier binding. -/
def bind (c : Context) (name : String) (v : Value) : Context := ⟨c.values.insert name v⟩

/-- Bind the names that have no binding yet. -/
def bindMissing (c : Context) (fields : Table Value) : Context :=
  ⟨fields.entries.foldl (fun t e => if t.contains e.1 then t else t.insert e.1 e.2) c.values⟩

def find? (c : Context) (name : String) : Option Value := c.values.find? name

def resolve? (c : Context) (p : Path) : Option Value := p.resolveIn? c.values

end Context

end RecordGate
