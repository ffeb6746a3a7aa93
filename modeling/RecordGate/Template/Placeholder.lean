import RecordGate.Path
import RecordGate.Value.Printer

/-!
# Placeholders

A template is a text with placeholders `${path}` in it.  `pieces` cuts it from the left into placeholders
and single characters; a placeholder holds no braces.  Filling a template replaces each placeholder
whose path leads to a value by the text of the value, and leaves all else as it is; what has been filled
in is never looked at again.
-/

namespace RecordGate.Template

/-- A part of a template. -/
inductive Piece where
  | char (c : Char)
  | placeholder (content : List Char)
  deriving DecidableEq, Inhabited

def isBrace (c : Char) : Bool := c = '\x7b' || c = '\x7d'

/-- The content of a placeholder whose dollar sign stands before the given text. -/
def content? : List Char → Option (List Char)
  | '\x7b' :: cs =>
    match cs.dropWhile (!isBrace ·) with
    | '\x7d' :: _ => some (cs.takeWhile (!isBrace ·))
    | _ => none
  | _ => none

/-- The pieces of a text whose first `skip` characters are taken. -/
def pieces : (skip : Nat) → List Char → List Piece
  | _, [] => []
  | skip + 1, _ :: cs => pieces skip cs
  | 0, c :: cs =>
    match if c = '$' then content? cs else none with
    | some content => .placeholder content :: pieces (content.length + 2) cs
    | none => .char c :: pieces 0 cs

/-- A piece as it stands in the template. -/
def Piece.write : Piece → List Char
  | char c => [c]
  | placeholder content => '$' :: '\x7b' :: (content ++ ['\x7d'])

/-- A value as it stands in a filled template: a text as it is, any other value as compact JSON. -/
def rendering : Value → List Char
  | .text s => s.toList
  | v => v.compactChars

/-- What a placeholder's content leads to. -/
def lookup? (root : Value) (content : List Char) : Option Value :=
  (Path.ofChars? content).bind (·.resolve? root)

def Piece.fill (root : Value) : Piece → List Char
  | char c => [c]
  | placeholder content => ((lookup? root content).map rendering).getD (placeholder content).write

def fillChars (root : Value) (template : List Char) : List Char :=
  (pieces 0 template).flatMap (·.fill root)

/-- A template with its placeholders filled from a value. -/
def fill (root : Value) (template : String) : String :=
  String.ofList (fillChars root template.toList)

mutual

/-- A value with every text in it filled; names of fields stay. -/
def fillValue (root : Value) : Value → Value
  | .null => .null
  | .bool b => .bool b
  | .number n => .number n
  | .text s => .text (fill root s)
  | .list items => .list (fillItems root items)
  | .object fields => .object (fillFields root fields)

def fillItems (root : Value) : List Value → List Value
  | [] => []
  | v :: rest => fillValue root v :: fillItems root rest

def fillFields (root : Value) : Entries Value → Entries Value
  | [] => []
  | (name, v) :: rest => (name, fillValue root v) :: fillFields root rest

end

end RecordGate.Template
