import RecordGate.Document.Basic

/-!
# Reading records out of documents

A record is written as an object, or as a list of its fields in their declared order; the list may stop
early.  In an object, members of other names are passed over, and a declared name may occur once only.
A reader of a field is given what stands there, and the kind of the field says what its absence means:
`required` fields have to be there, `withDefault` fields need not, and `nullable` ones may also hold
`null`.
-/

namespace RecordGate

/-- The declared fields that a document gives. -/
structure Record where
  named : Bool
  given : List (String × Document)

namespace Record

/-- How often a name occurs among members. -/
def occurrences (name : String) (members : List (String × Document)) : Nat :=
  members.countP fun m => m.1 == name

/-- The record that a document writes, if it writes one of the declared fields. -/
def read? (declared : List String) : Document → Option Record
  | .object members =>
    if declared.all fun name => occurrences name members ≤ 1 then
      some ⟨true, members.filter fun m => declared.contains m.1⟩
    else none
  | .list items => if items.length ≤ declared.length then some ⟨false, declared.zip items⟩ else none
  | _ => none

def find? (r : Record) (name : String) : Option Document := Entries.find? name r.given

variable {α : Type}

def required (r : Record) (name : String) (read : Document → Option α) : Option α :=
  (r.find? name).bind read

def withDefault (r : Record) (name : String) (default : α) (read : Document → Option α) : Option α :=
  match r.find? name with
  | none => some default
  | some d => read d

/-- What stands under `null` or under a value. -/
def orNull (read : Document → Option α) : Document → Option (Option α)
  | .null => some none
  | d => (read d).map some

def nullable (r : Record) (name : String) (read : Document → Option α) : Option (Option α) :=
  r.withDefault name none (orNull read)

/-- A field that may hold `null` and that an object may leave out, but a list may not. -/
def nullableInList (r : Record) (name : String) (read : Document → Option α) : Option (Option α) :=
  match r.find? name with
  | none => if r.named then some none else none
  | some d => orNull read d

end Record

namespace Document

/-! ### Readers of plain parts -/

def text? : Document → Option String
  | text s => some s
  | _ => none

def bool? : Document → Option Bool
  | bool b => some b
  | _ => none

/-- A natural number below a limit. -/
def natBelow? (limit : Nat) : Document → Option Nat
  | number (.int i) => if 0 ≤ i.val && i.val < limit then some i.val.toNat else none
  | _ => none

/-- The items of a list, each read. -/
def list? {α : Type} (read : Document → Option α) : Document → Option (List α)
  | list items => items.mapM read
  | _ => none

/-- The members of an object, each read; of a repeated name the last counts. -/
def table? {α : Type} (read : Document → Option α) : Document → Option (Table α)
  | object members => (members.mapM fun m => (read m.2).map fun a => (m.1, a)).map Table.ofList
  | _ => none

/-- The members of an object as values. -/
def fields? (d : Document) : Option (Table Value) := d.table? value?

end Document

end RecordGate
