import RecordGate.Value.Basic
import RecordGate.Text.Blank

/-!
# Paths

A path names a place inside a value: keys separated by points, each key with at most one index in
brackets, as in `entity.tags[0]`.  A path either leads to a value or to nothing; a missing key, a parent
of the wrong kind and an index out of range all lead to nothing.
-/

namespace RecordGate

open RecordGate.Text

inductive Segment where
  | key (name : String)
  | index (i : Nat)
  deriving DecidableEq, Inhabited

structure Path where
  segments : List Segment
  deriving DecidableEq, Inhabited

namespace Path

/-- The characters of a key. -/
def isKeyChar (c : Char) : Bool := isLetter c || isDigit c || c = '_' || c = '$' || c = '-'

def key? (cs : List Char) : Option Segment :=
  if !cs.isEmpty && cs.all isKeyChar then some (.key (String.ofList cs)) else none

/-- An index is written in decimal digits, and 64 bits hold it. -/
def index? (cs : List Char) : Option Segment :=
  if !cs.isEmpty && cs.all isDigit && number cs < 0x10000000000000000 then some (.index (number cs)) else none

/-- A text without its last character, if that is the given one. -/
def dropLast? (c : Char) (cs : List Char) : Option (List Char) :=
  if cs.getLast? = some c then some cs.dropLast else none

/-- The segments of one part between points: a key, or a key with an index. -/
def part? (cs : List Char) : Option (List Segment) :=
  match cs.dropWhile (· ≠ '[') with
  | [] => (key? cs).map ([·])
  | _ :: rest => do
    let inner ← dropLast? ']' rest
    let i ← index? inner
    let k ← key? (cs.takeWhile (· ≠ '['))
    some [k, i]

/-- The segments of all parts, if each is well formed. -/
def parts? : List (List Char) → Option (List Segment)
  | [] => some []
  | part :: rest => do
    let s ← part? part
    let ss ← parts? rest
    some (s ++ ss)

/-- The path that a text writes, blanks around it aside. -/
def ofChars? (cs : List Char) : Option Path :=
  match trim cs with
  | [] => none
  | cs => (parts? (splitAt '.' cs)).map .mk

def ofString? (s : String) : Option Path := ofChars? s.toList

/-! ### Writing -/

def writeRest : List Segment → List Char
  | [] => []
  | .key k :: rest => '.' :: (k.toList ++ writeRest rest)
  | .index i :: rest => '[' :: (digits i ++ ']' :: writeRest rest)

/-- The shortest text of a path: no blanks, and no leading zeros in an index. -/
def write (p : Path) : List Char :=
  match p.segments with
  | .key k :: rest => k.toList ++ writeRest rest
  | segments => writeRest segments

def toString (p : Path) : String := String.ofList p.write

/-! ### Following a path -/

/-- One step into a value: a key into an object, an index into a list. -/
def step? (v : Value) : Segment → Option Value
  | .key k => v.field? k
  | .index i => v.item? i

def descend? : List Segment → Value → Option Value
  | [], v => some v
  | s :: rest, v => (step? v s).bind (descend? rest)

/-- Where a path leads from a value. -/
def resolve? (p : Path) (root : Value) : Option Value := descend? p.segments root

/-- Where a path leads from the names of a table; its first segment has to be a key. -/
def resolveIn? (p : Path) (root : Table Value) : Option Value :=
  match p.segments with
  | .key k :: rest => (root.find? k).bind (descend? rest)
  | _ => none

/-- The key that a path starts with. -/
def head? (p : Path) : Option String :=
  match p.segments with
  | .key k :: _ => some k
  | _ => none

end Path

end RecordGate
