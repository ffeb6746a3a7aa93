import RecordGate.Document.Basic
import RecordGate.Document.Numeral

/-!
# Reading a document

The grammar is that of strict JSON: no comments, no final commas, no text after the document, no control
character inside a quoted text.  `read?` gives the document, or nothing when the text is not JSON.
Structures may nest as deeply as they like, but those below `maxLevel` levels are `unusable`.
-/

namespace RecordGate.Document

/-- Structures nested more deeply than this stand for no value. -/
def maxLevel : Nat := 127

def isSpace (c : Char) : Bool := c = ' ' || c = '\t' || c = '\n' || c = '\r'

def skipSpace (cs : List Char) : List Char := cs.dropWhile isSpace

/-! ### Quoted text -/

def hexValue? (c : Char) : Option Nat :=
  if '0' ≤ c && c ≤ '9' then some (c.toNat - 48)
  else if 'a' ≤ c && c ≤ 'f' then some (c.toNat - 87)
  else if 'A' ≤ c && c ≤ 'F' then some (c.toNat - 55)
  else none

/-- The character that a letter after a backslash stands for. -/
def escape? (c : Char) : Option Nat :=
  match c with
  | '"' => some 0x22
  | '\\' => some 0x5C
  | '/' => some 0x2F
  | 'b' => some 0x08
  | 'f' => some 0x0C
  | 'n' => some 0x0A
  | 'r' => some 0x0D
  | 't' => some 0x09
  | _ => none

/-- The four hexadecimal digits after `\u`, and the rest. -/
def hexUnit? : List Char → Option (Nat × List Char)
  | a :: b :: c :: d :: rest => do
    let a ← hexValue? a
    let b ← hexValue? b
    let c ← hexValue? c
    let d ← hexValue? d
    some (((a * 16 + b) * 16 + c) * 16 + d, rest)
  | _ => none

/-- The units of a quoted text up to its closing quote, and what follows.  A unit is a code point, or
one of the two halves of a surrogate pair. -/
def units? : Nat → List Char → Option (List Nat × List Char)
  | 0, _ => none
  | _, [] => none
  | fuel + 1, c :: cs => do
    if c = '"' then some ([], cs)
    else if c = '\\' then
      match cs with
      | 'u' :: cs =>
        let (unit, cs) ← hexUnit? cs
        let (units, rest) ← units? fuel cs
        some (unit :: units, rest)
      | e :: cs =>
        let unit ← escape? e
        let (units, rest) ← units? fuel cs
        some (unit :: units, rest)
      | [] => none
    else if c.toNat < 0x20 then none
    else
      let (units, rest) ← units? fuel cs
      some (c.toNat :: units, rest)

def isHighHalf (u : Nat) : Bool := 0xD800 ≤ u && u < 0xDC00

def isLowHalf (u : Nat) : Bool := 0xDC00 ≤ u && u < 0xE000

/-- The characters of units, if every half stands in a pair. -/
def characters? : List Nat → Option (List Char)
  | [] => some []
  | [u] => if isHighHalf u || isLowHalf u then none else some [Char.ofNat u]
  | u :: v :: rest =>
    if isHighHalf u then
      if isLowHalf v then
        (characters? rest).map (Char.ofNat (0x10000 + (u - 0xD800) * 0x400 + (v - 0xDC00)) :: ·)
      else none
    else if isLowHalf u then none
    else (characters? (v :: rest)).map (Char.ofNat u :: ·)

/-- A quoted text after its opening quote: what it says, if it says anything, and the rest. -/
def quoted? (cs : List Char) : Option (Option String × List Char) :=
  (units? (cs.length + 1) cs).map fun (units, rest) => ((characters? units).map String.ofList, rest)

/-! ### Structures -/

/-- The rest of a text after a word it starts with. -/
def word? (word : List Char) (cs : List Char) : Option (List Char) :=
  if word.isPrefixOf cs then some (cs.drop word.length) else none

/-- An object whose names all say something; a name that says nothing makes the object unusable. -/
def ofMembers (members : List (Option String × Document)) : Document :=
  match members.mapM fun (name, d) => name.map fun n => (n, d) with
  | some members => object members
  | none => unusable

mutual

/-- The document at the start of a text, and the rest; `level` counts the structures around it. -/
def document? : (fuel : Nat) → (level : Nat) → List Char → Option (Document × List Char)
  | 0, _, _ => none
  | fuel + 1, level, cs =>
    match skipSpace cs with
    | [] => none
    | '"' :: cs => (quoted? cs).map fun (s, rest) => (s.elim unusable text, rest)
    | '[' :: cs => do
      let (items, rest) ← match skipSpace cs with
        | ']' :: rest => some ([], rest)
        | cs => items? fuel (level + 1) cs
      some (if level < maxLevel then list items else unusable, rest)
    | '\x7b' :: cs => do
      let (members, rest) ← match skipSpace cs with
        | '\x7d' :: rest => some ([], rest)
        | cs => members? fuel (level + 1) cs
      some (if level < maxLevel then ofMembers members else unusable, rest)
    | 'n' :: cs => (word? "ull".toList cs).map (null, ·)
    | 't' :: cs => (word? "rue".toList cs).map (bool true, ·)
    | 'f' :: cs => (word? "alse".toList cs).map (bool false, ·)
    | cs => (Numeral.read? cs).map fun (n, rest) => (n.number?.elim unusable number, rest)

/-- The items of a list that has one at least, up to the closing bracket. -/
def items? : (fuel : Nat) → (level : Nat) → List Char → Option (List Document × List Char)
  | 0, _, _ => none
  | fuel + 1, level, cs => do
    let (item, cs) ← document? fuel level cs
    match skipSpace cs with
    | ',' :: cs =>
      let (items, rest) ← items? fuel level cs
      some (item :: items, rest)
    | ']' :: rest => some ([item], rest)
    | _ => none

/-- The members of an object that has one at least, up to the closing brace. -/
def members? : (fuel : Nat) → (level : Nat) → List Char →
    Option (List (Option String × Document) × List Char)
  | 0, _, _ => none
  | fuel + 1, level, cs =>
    match skipSpace cs with
    | '"' :: cs => do
      let (name, cs) ← quoted? cs
      match skipSpace cs with
      | ':' :: cs =>
        let (d, cs) ← document? fuel level cs
        match skipSpace cs with
        | ',' :: cs =>
          let (members, rest) ← members? fuel level cs
          some ((name, d) :: members, rest)
        | '\x7d' :: rest => some ([(name, d)], rest)
        | _ => none
      | _ => none
    | _ => none

end

/-- The document that a text is. -/
def read? (s : String) : Option Document :=
  let cs := s.toList
  match document? (2 * cs.length + 2) 0 cs with
  | some (d, rest) => if (skipSpace rest).isEmpty then some d else none
  | none => none

end RecordGate.Document
