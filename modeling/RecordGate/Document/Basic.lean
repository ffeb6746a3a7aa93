import RecordGate.Value.Basic

/-!
# Documents

A document is JSON as it was written: an object keeps its members in their order, repeated names
included, and a part that is well formed as text but stands for no value (a number out of range, a text
with half a surrogate pair, a structure nested too deeply) is kept as `unusable`.  A reader of a record
may pass over such a part; only who looks at it fails.
-/

namespace RecordGate

inductive Document where
  | null
  | bool (b : Bool)
  | number (n : Number)
  | text (s : String)
  | list (items : List Document)
  | object (members : List (String × Document))
  | unusable
  deriving Inhabited

namespace Document

mutual

/-- The value a document stands for, if every part of it stands for one.  Of a repeated name the last
member counts. -/
def value? : Document → Option Value
  | null => some .null
  | bool b => some (.bool b)
  | number n => some (.number n)
  | text s => some (.text s)
  | list items => (itemValues? items).map .list
  | object members => (memberValues? members).map .ofFields
  | unusable => none

def itemValues? : List Document → Option (List Value)
  | [] => some []
  | d :: rest => do
    let v ← value? d
    let vs ← itemValues? rest
    some (v :: vs)

def memberValues? : List (String × Document) → Option (Entries Value)
  | [] => some []
  | (name, d) :: rest => do
    let v ← value? d
    let vs ← memberValues? rest
    some ((name, v) :: vs)

end

mutual

/-- A value as a document. -/
def ofValue : Value → Document
  | .null => null
  | .bool b => bool b
  | .number n => number n
  | .text s => text s
  | .list items => list (ofItems items)
  | .object fields => object (ofFields fields)

def ofItems : List Value → List Document
  | [] => []
  | v :: rest => ofValue v :: ofItems rest

def ofFields : Entries Value → List (String × Document)
  | [] => []
  | (name, v) :: rest => (name, ofValue v) :: ofFields rest

end

end Document

end RecordGate
