import RecordGate.Expression.Parser
import RecordGate.Context

/-!
# The meaning of a rule

Every tree has a meaning in every context: a value, or nothing where a path leads nowhere.  Nothing is
not true, and a comparison that has nothing on one side is false whatever it asks.  Conjunction and
disjunction give the operand that decides, and do not look at the other one.

Numbers are compared as doubles, texts by code points; no other two values have an order.
-/

namespace RecordGate.Expression

def truthy : Option Value → Bool
  | none => false
  | some v => v.truthy

/-! ### Comparison -/

/-- Whether two values are equal in a rule: numbers by what they stand for, others part by part. -/
def looselyEqual : Value → Value → Bool
  | .number m, .number n => m.toBinary64.same n.toBinary64
  | v, w => v.equal w

/-- How two numbers or two texts are ordered. -/
def order? : Value → Value → Option Ordering
  | .number m, .number n => some (compare m.toBinary64.key n.toBinary64.key)
  | .text s, .text t => some (compare s t)
  | _, _ => none

def Comparison.holds (c : Comparison) (v w : Value) : Bool :=
  match c with
  | equal => looselyEqual v w
  | unequal => !looselyEqual v w
  | less => order? v w == some .lt
  | lessEqual => order? v w == some .lt || order? v w == some .eq
  | greater => order? v w == some .gt
  | greaterEqual => order? v w == some .gt || order? v w == some .eq

/-- A comparison of operands; it fails where one is missing. -/
def Comparison.decide (c : Comparison) : Option Value → Option Value → Bool
  | some v, some w => c.holds v w
  | _, _ => false

/-! ### Evaluation -/

def Tree.eval (context : Context) : Tree → Option Value
  | literal v => some v
  | path p => context.resolve? p
  | not e => some (.bool !truthy (e.eval context))
  | compare c left right => some (.bool (c.decide (left.eval context) (right.eval context)))
  | and left right =>
    if truthy (left.eval context) then right.eval context else left.eval context
  | or left right =>
    if truthy (left.eval context) then left.eval context else right.eval context

end RecordGate.Expression
