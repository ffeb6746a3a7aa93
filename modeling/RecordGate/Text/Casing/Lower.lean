import RecordGate.Text.Casing.Table

/-!
# Lower case

Lower-casing follows the full mapping of the Unicode standard: `İ` becomes two code points, the capital
sigma becomes its final form at the end of a word, and every other capital becomes its small letter.
A sigma ends a word when a letter with case stands before it and none after it, characters that
are ignorable for case passed over.
-/

namespace RecordGate.Text.Casing

def isCased (c : Char) : Bool := inRanges casedRanges c

def isIgnorable (c : Char) : Bool := inRanges ignorableRanges c

/-- The small letter of a capital that has one, any other character itself. -/
def small (c : Char) : Char := (counterpart? smallLetters c).getD c

/-- Whether the first character that is not ignorable is a letter with case. -/
def meetsCased (cs : List Char) : Bool :=
  match cs.dropWhile isIgnorable with
  | [] => false
  | c :: _ => isCased c

/-- The small letters of a character, between the text before it (nearest first) and the text after. -/
def lowerAt (before : List Char) (c : Char) (after : List Char) : List Char :=
  if c = '\u03a3' then
    if meetsCased before && !meetsCased after then ['\u03c2'] else ['\u03c3']
  else if c = '\u0130' then ['i', '\u0307']
  else [small c]

def lowerFrom (before : List Char) : List Char → List Char
  | [] => []
  | c :: after => lowerAt before c after ++ lowerFrom (c :: before) after

/-- A text in lower case. -/
def lower (s : String) : String := String.ofList (lowerFrom [] s.toList)

end RecordGate.Text.Casing
