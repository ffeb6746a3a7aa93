import RecordGate.Text.Direction.Table
import RecordGate.Text.CodePoints

/-!
# Writing direction

Names whose words are written in both directions are ambiguous on a screen.  `Direction.isSteady` says
that a word keeps to one direction: one from left to right holds no letter of the other direction and no
Arabic number, and ends with a letter or a digit; one from right to left holds no letter of
the other direction, ends with a letter or a digit, and does not mix Arabic and European numbers.
-/

namespace RecordGate.Text

inductive Direction where
  | left
  | right
  | arabicNumber
  | number
  | mark
  | neutral
  deriving DecidableEq, Inhabited

namespace Direction

def ofChar (c : Char) : Direction :=
  if inRanges rightRanges c then right
  else if inRanges arabicNumberRanges c then arabicNumber
  else if inRanges numberRanges c then number
  else if inRanges markRanges c then mark
  else if inRanges neutralRanges c then neutral
  else left

/-- Whether a text has to be read from right to left somewhere. -/
def turns (cs : List Char) : Bool :=
  cs.any fun c => ofChar c = right || ofChar c = arabicNumber

/-- The directions in a word without the marks at its end. -/
def body (cs : List Char) : List Direction :=
  ((cs.map ofChar).reverse.dropWhile (· = mark)).reverse

/-- A word that keeps to the direction of its first letter. -/
def isSteady (cs : List Char) : Bool :=
  let ds := body cs
  match ds.head?, ds.getLast? with
  | some left, some last =>
    (last = left || last = number) && !ds.contains right && !ds.contains arabicNumber
  | some right, some last =>
    (last = right || last = number || last = arabicNumber) && !ds.contains left
      && !(ds.contains number && ds.contains arabicNumber)
  | _, _ => false

end Direction

end RecordGate.Text
