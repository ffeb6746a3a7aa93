/-!
# Sets and maps of code points

A property of characters is given by the ranges of code points that have it, a map between characters by
the runs of code points that it moves by one distance.
-/

namespace RecordGate.Text

/-- Whether a character lies in one of the ranges, ends included. -/
def inRanges (ranges : List (Nat × Nat)) (c : Char) : Bool :=
  ranges.any fun (first, last) => first ≤ c.toNat && c.toNat ≤ last

/-- Code points from `first` to `last` at distance `step`, whose counterparts lie `shift` further on. -/
structure Run where
  first : Nat
  last : Nat
  step : Nat
  shift : Int

def Run.contains (r : Run) (n : Nat) : Bool :=
  r.first ≤ n && n ≤ r.last && (n - r.first) % r.step == 0

/-- The counterpart of a character in the first run that holds it. -/
def counterpart? (runs : List Run) (c : Char) : Option Char :=
  (runs.find? (·.contains c.toNat)).map fun r => Char.ofNat ((c.toNat : Int) + r.shift).toNat

end RecordGate.Text
