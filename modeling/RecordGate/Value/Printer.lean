import RecordGate.Value.Basic
import RecordGate.Binary64.Shortest

/-!
# The JSON text of a value

`compact` writes a value without any space, `pretty` with one element to a line and two spaces to a
level.  Only the quote, the backslash and the control characters are escaped.
-/

namespace RecordGate

open RecordGate.Text

/-- Decimal digits, with a sign when negative. -/
def Whole.render (i : Whole) : List Char :=
  if i.val < 0 then '-' :: digits i.val.natAbs else digits i.val.natAbs

def Number.render : Number → List Char
  | .int i => i.render
  | .float x => x.render

namespace Value

def hexDigit (n : Nat) : Char := Nat.digitChar n

/-- How a character stands in a quoted text. -/
def escaped (c : Char) : List Char :=
  if c = '"' then ['\\', '"']
  else if c = '\\' then ['\\', '\\']
  else if c = '\x08' then ['\\', 'b']
  else if c = '\x09' then ['\\', 't']
  else if c = '\x0a' then ['\\', 'n']
  else if c = '\x0c' then ['\\', 'f']
  else if c = '\x0d' then ['\\', 'r']
  else if c.toNat < 0x20 then
    ['\\', 'u', '0', '0', hexDigit (c.toNat / 16), hexDigit (c.toNat % 16)]
  else [c]

def quoted (s : String) : List Char := '"' :: (s.toList.flatMap escaped ++ ['"'])

def openBrace : Char := '\x7b'

def closeBrace : Char := '\x7d'

/-! ### Without spaces -/

mutual

def compactChars : Value → List Char
  | null => "null".toList
  | bool true => "true".toList
  | bool false => "false".toList
  | number n => n.render
  | text s => quoted s
  | list items => '[' :: (compactItems items ++ [']'])
  | object fields => openBrace :: (compactFields fields ++ [closeBrace])

def compactItems : List Value → List Char
  | [] => []
  | [x] => compactChars x
  | x :: y :: rest => compactChars x ++ ',' :: compactItems (y :: rest)

def compactFields : Entries Value → List Char
  | [] => []
  | [(k, x)] => quoted k ++ ':' :: compactChars x
  | (k, x) :: f :: rest => quoted k ++ ':' :: (compactChars x ++ ',' :: compactFields (f :: rest))

end

def compact (v : Value) : String := String.ofList (compactChars v)

/-! ### With one element to a line -/

/-- A new line at a level of nesting. -/
def newline (level : Nat) : List Char := '\n' :: List.replicate (2 * level) ' '

mutual

def prettyChars (level : Nat) : Value → List Char
  | null => "null".toList
  | bool true => "true".toList
  | bool false => "false".toList
  | number n => n.render
  | text s => quoted s
  | list [] => ['[', ']']
  | list (x :: rest) => '[' :: (prettyItems (level + 1) (x :: rest) ++ newline level ++ [']'])
  | object [] => [openBrace, closeBrace]
  | object (f :: rest) =>
    openBrace :: (prettyFields (level + 1) (f :: rest) ++ newline level ++ [closeBrace])

def prettyItems (level : Nat) : List Value → List Char
  | [] => []
  | [x] => newline level ++ prettyChars level x
  | x :: y :: rest => newline level ++ prettyChars level x ++ ',' :: prettyItems level (y :: rest)

def prettyFields (level : Nat) : Entries Value → List Char
  | [] => []
  | [(k, x)] => newline level ++ quoted k ++ ':' :: ' ' :: prettyChars level x
  | (k, x) :: f :: rest =>
    newline level ++ quoted k ++ ':' :: ' ' :: (prettyChars level x ++ ',' :: prettyFields level (f :: rest))

end

def pretty (v : Value) : String := String.ofList (prettyChars 0 v)

end Value

end RecordGate
