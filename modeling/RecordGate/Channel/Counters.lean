import RecordGate.Value.Basic

/-!
# Counters

Counters go up by one, by name.  A name that was never counted stands at zero and is not listed.
-/

namespace RecordGate

abbrev Counters := Table Nat

namespace Counters

def value (c : Counters) (name : String) : Nat := (c.find? name).getD 0

def increment (c : Counters) (name : String) : Counters := c.update name fun n => n.getD 0 + 1

def toValue (c : Counters) : Value := .ofTable (c.map fun _ n => .ofNat n)

end Counters

end RecordGate
