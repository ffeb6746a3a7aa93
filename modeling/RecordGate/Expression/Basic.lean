import RecordGate.Expression.Eval

/-!
# Expressions and verdicts

An expression is a rule that has been parsed, together with its text.  `evaluate` answers a rule given
as text: the verdict is the value that the rule has, or the error in its text.  Only a verdict without
an error and with a true value has passed.
-/

namespace RecordGate

/-- The answer to a rule: its value, which may be missing, or the error that kept it from having one. -/
structure Verdict where
  success : Bool
  value : Option Value
  error : Option String
  deriving Inhabited

namespace Verdict

def succeeded (value : Option Value) : Verdict := ⟨true, value, none⟩

def failed (error : String) : Verdict := ⟨false, none, some error⟩

/-- Whether a verdict grants: a success with a true value. -/
def passed (v : Verdict) : Bool := v.success && Expression.truthy v.value

@[simp] theorem passed_succeeded (value : Option Value) :
    (succeeded value).passed = Expression.truthy value := rfl

@[simp] theorem passed_failed (error : String) : (failed error).passed = false := rfl

end Verdict

structure Expression where
  source : String
  tree : Expression.Tree
  deriving Inhabited

namespace Expression

/-- The expression that a text writes, or the first error in it. -/
def parse (source : String) : Except SyntaxError Expression :=
  let cs := source.toList
  let length := Text.byteLength cs
  if maxLength < length then .error (.tooLong length)
  else match tokens cs with
    | .error e => .error e
    | .ok ts => (treeOf ts).map fun tree => ⟨source, tree⟩

def eval (e : Expression) (context : Context) : Verdict := .succeeded (e.tree.eval context)

/-- The verdict on a text that has been parsed, or could not be. -/
def verdict (parsed : Except SyntaxError Expression) (context : Context) : Verdict :=
  match parsed with
  | .ok e => e.eval context
  | .error e => .failed e.message

/-- The verdict on a rule. -/
def evaluate (source : String) (context : Context) : Verdict := verdict (parse source) context

end Expression

end RecordGate
