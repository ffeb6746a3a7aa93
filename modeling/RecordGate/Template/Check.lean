import RecordGate.Template.Placeholder

/-!
# Checking templates

Templates are checked when a workflow is declared.  A placeholder has to be closed, must not hold
another one, must not be empty and has to hold a path; braces that belong to no placeholder are text, but
each closing one needs an opening one before it.  Offsets count bytes.
-/

namespace RecordGate.Template

open RecordGate.Text

inductive Issue where
  | unclosed (offset : Nat)
  | empty (offset : Nat)
  | nested (offset : Nat)
  | unmatchedClose (offset : Nat)
  | invalidPath (path : String) (offset : Nat)
  deriving DecidableEq, Inhabited

def Issue.offset : Issue → Nat
  | unclosed offset => offset
  | empty offset => offset
  | nested offset => offset
  | unmatchedClose offset => offset
  | invalidPath _ offset => offset

def Issue.message : Issue → String
  | unclosed offset => "unclosed placeholder at offset " ++ toString offset
  | empty offset => "empty placeholder at offset " ++ toString offset
  | nested offset => "nested placeholder at offset " ++ toString offset
  | unmatchedClose offset => "unmatched closing brace at offset " ++ toString offset
  | invalidPath path offset =>
    "invalid placeholder path '" ++ path ++ "' at offset " ++ toString offset

/-- The text of a placeholder up to the brace that closes it, and whether another placeholder opens
in it. -/
structure Region where
  inner : List Char
  nested : Bool
  deriving DecidableEq, Inhabited

/-- The region that starts at a text, inside which `depth` further placeholders are open.  Only
placeholders open a level here, but every closing brace closes one. -/
def region? : (depth : Nat) → List Char → Option Region
  | _, [] => none
  | depth, '$' :: '\x7b' :: cs =>
    (region? (depth + 1) cs).map fun r => ⟨'$' :: '\x7b' :: r.inner, true⟩
  | 0, '\x7d' :: _ => some ⟨[], false⟩
  | depth + 1, '\x7d' :: cs => (region? depth cs).map fun r => ⟨'\x7d' :: r.inner, r.nested⟩
  | depth, c :: cs => (region? depth cs).map fun r => ⟨c :: r.inner, r.nested⟩

/-- What is wrong with a closed placeholder, if anything is. -/
def Region.issue? (r : Region) (offset : Nat) : Option Issue :=
  let path := trim r.inner
  if r.nested then some (.nested offset)
  else if path.isEmpty then some (.empty offset)
  else if (Path.ofChars? path).isNone then some (.invalidPath (String.ofList path) offset)
  else none

/-- The issues of a text that starts at byte `offset`, after `depth` open braces that are text, and
whose first `skip` characters are taken. -/
def issuesFrom (offset depth : Nat) : (skip : Nat) → List Char → List Issue
  | _, [] => []
  | skip + 1, c :: cs => issuesFrom (offset + c.utf8Size) depth skip cs
  | 0, c :: cs =>
    if c = '$' && cs.head? = some '\x7b' then
      match region? 0 cs.tail with
      | none => [.unclosed offset]
      | some r =>
        (r.issue? offset).toList ++ issuesFrom (offset + c.utf8Size) depth (r.inner.length + 2) cs
    else if c = '\x7b' then issuesFrom (offset + c.utf8Size) (depth + 1) 0 cs
    else if c = '\x7d' then
      if depth = 0 then .unmatchedClose offset :: issuesFrom (offset + c.utf8Size) 0 0 cs
      else issuesFrom (offset + c.utf8Size) (depth - 1) 0 cs
    else issuesFrom (offset + c.utf8Size) depth 0 cs

/-- What is wrong with a template, from left to right. -/
def issues (template : String) : List Issue := issuesFrom 0 0 0 template.toList

/-! ### Templates inside values -/

/-- An issue, and the place of its text inside a value. -/
structure Finding where
  location : String
  issue : Issue
  deriving DecidableEq, Inhabited

def atItem (location : String) (index : Nat) : String := location ++ "[" ++ toString index ++ "]"

def atField (location name : String) : String :=
  if location.isEmpty then name else location ++ "." ++ name

mutual

/-- The issues of all texts inside a value, in the order of the value's text. -/
def findingsAt (location : String) : Value → List Finding
  | .text s => (issues s).map (⟨location, ·⟩)
  | .list items => findingsAtItems location 0 items
  | .object fields => findingsAtFields location fields
  | _ => []

def findingsAtItems (location : String) (index : Nat) : List Value → List Finding
  | [] => []
  | v :: rest =>
    findingsAt (atItem location index) v ++ findingsAtItems location (index + 1) rest

def findingsAtFields (location : String) : Entries Value → List Finding
  | [] => []
  | (name, v) :: rest => findingsAt (atField location name) v ++ findingsAtFields location rest

end

def findings (v : Value) : List Finding := findingsAt "" v

end RecordGate.Template
