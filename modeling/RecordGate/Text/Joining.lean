import RecordGate.Text.Composition
import RecordGate.Text.Joining.Table

/-!
# Joiners

Two invisible characters say whether the letters beside them join.  They have a meaning after a virama, and
the one that parts letters also between letters that would join otherwise.
-/

namespace RecordGate.Text.Joining

def joiner : Char := '\u200d'

def nonJoiner : Char := '\u200c'

/-- A virama takes away the vowel of the consonant before it. -/
def isVirama (c : Char) : Bool := Composition.combiningClass c = 9

/-- The first character that letters do not join across lies in one of the ranges. -/
def meets (ranges : List (Nat × Nat)) (cs : List Char) : Bool :=
  match cs.dropWhile (inRanges acrossRanges) with
  | [] => false
  | c :: _ => inRanges ranges c

/-- Whether the letters around a place would join: the text before it, nearest first, and the text after. -/
def joins (before after : List Char) : Bool :=
  meets (leftRanges ++ bothRanges) before && meets (rightRanges ++ bothRanges) after

/-- All joiners in a text have a meaning, the text before it given nearest first. -/
def areMeantFrom (before : List Char) : List Char → Bool
  | [] => true
  | c :: after =>
    (if c = joiner then before.head?.any isVirama
      else if c = nonJoiner then before.head?.any isVirama || joins before after
      else true)
      && areMeantFrom (c :: before) after

def areMeant (cs : List Char) : Bool := areMeantFrom [] cs

end RecordGate.Text.Joining
