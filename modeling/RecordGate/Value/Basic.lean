import RecordGate.Binary64.Basic
import RecordGate.Table

/-!
# Values

Records, events, contexts and parameters are made of one kind of dynamic value.  A number is either an
integer of 64 bits, signed or unsigned, or a finite double; `1` and `1.0` are different values that
compare equal.  An object lists its fields in the order of their names.

`Value.equal` is the equality inside structures: there an integer never equals a double.
-/

namespace RecordGate

/-- An integer that 64 bits hold, with or without a sign. -/
structure Whole where
  val : Int
  lower : -0x8000000000000000 ≤ val
  upper : val < 0x10000000000000000
  deriving DecidableEq

namespace Whole

def ofInt? (i : Int) : Option Whole :=
  if h : -0x8000000000000000 ≤ i ∧ i < 0x10000000000000000 then some ⟨i, h.1, h.2⟩ else none

/-- A count; counts past 64 bits do not occur, and would stay at the greatest. -/
def ofNat (n : Nat) : Whole := ⟨min n 0xFFFFFFFFFFFFFFFF, by omega, by omega⟩

instance : Inhabited Whole := ⟨0, by decide, by decide⟩

theorem ext {a b : Whole} (h : a.val = b.val) : a = b := by
  cases a; cases b; cases h; rfl

end Whole

inductive Number where
  | int (i : Whole)
  | float (x : Binary64)
  deriving DecidableEq, Inhabited

namespace Number

/-- The double by which a number is compared: an integer counts as the double nearest to it. -/
def toBinary64 : Number → Binary64
  | int i => Binary64.ofInt i.val
  | float x => x

/-- Equality inside structures: numbers of the two kinds differ. -/
def equal : Number → Number → Bool
  | int i, int j => i == j
  | float x, float y => x.same y
  | _, _ => false

end Number

inductive Value where
  | null
  | bool (b : Bool)
  | number (n : Number)
  | text (s : String)
  | list (items : List Value)
  | object (fields : List (String × Value))
  deriving Inhabited

namespace Value

def ofNat (n : Nat) : Value := number (.int (.ofNat n))

def ofOption {α : Type} (f : α → Value) : Option α → Value
  | none => null
  | some a => f a

def ofTable (t : Table Value) : Value := object t.entries

/-- An object of the given fields, put in order. -/
def ofFields (fields : Entries Value) : Value := object (Entries.sorted fields)

def isNull : Value → Bool
  | null => true
  | _ => false

def text? : Value → Option String
  | text s => some s
  | _ => none

/-- The field of an object; other values have none. -/
def field? (name : String) : Value → Option Value
  | object fields => Entries.find? name fields
  | _ => none

/-- The element of a list; other values have none. -/
def item? (index : Nat) : Value → Option Value
  | list items => items[index]?
  | _ => none

/-- What counts as true where a truth value is needed: all but `null`, `false`, zero and the empty
text. -/
def truthy : Value → Bool
  | null => false
  | bool b => b
  | number n => !n.toBinary64.isZero
  | text s => !s.isEmpty
  | list _ => true
  | object _ => true

/-! ### Equality -/

mutual

/-- Equality of values, part by part. -/
def equal : Value → Value → Bool
  | null, null => true
  | bool a, bool b => a == b
  | number m, number n => m.equal n
  | text s, text t => s == t
  | list xs, list ys => equalItems xs ys
  | object fs, object gs => equalFields fs gs
  | _, _ => false

def equalItems : List Value → List Value → Bool
  | [], [] => true
  | x :: xs, y :: ys => equal x y && equalItems xs ys
  | _, _ => false

def equalFields : Entries Value → Entries Value → Bool
  | [], [] => true
  | (k, x) :: fs, (l, y) :: gs => k == l && equal x y && equalFields fs gs
  | _, _ => false

end

end Value

end RecordGate
