import RecordGate.Binary64.Basic
import RecordGate.Text.Blank

/-!
# The decimal text of a double

A double is written with the fewest decimal digits that read back as it, and with the nearest such
digits.  `shortest` finds them on the grids of one, two, … seventeen significant digits: if a point of
a grid reads back, so does one of the two points of the grid beside the magnitude.  Two layouts use the
digits: `render` for values, `plain` for messages.  They part ways where two points are equally near.
-/

namespace RecordGate.Binary64

open RecordGate.Text

/-- Twice and four times the magnitude's grid: the bounds between which a decimal reads back as the
double, all as multiples of `2 ^ (exponent - 2)`.  Below a power of two the neighbours lie closer. -/
def bounds (x : Binary64) : Nat × Nat × Nat :=
  let m := x.significand
  let below := if m = block && -1074 < x.exponent then 4 * m - 1 else 4 * m - 2
  (below, 4 * m, 4 * m + 2)

/-- Which of two points goes for a magnitude halfway between them. -/
inductive Tie where
  | toEven
  | up
  deriving DecidableEq, Inhabited

/-- Whether the lower point goes for a magnitude halfway above it. -/
def Tie.keeps (tie : Tie) (d : Nat) : Bool :=
  match tie with
  | .toEven => d % 2 = 0
  | .up => false

/-- The nearest point of the decimal grid of last place `place` that reads back as `x`, if there is one. -/
def gridPoint? (tie : Tie) (x : Binary64) (place : Int) : Option Nat :=
  let (below, middle, above) := bounds x
  let (twos, halves) := powerOfTwo (x.exponent - 2)
  let (tens, tenths) := powerOfTen place
  let scale (n : Nat) : Nat := n * twos * tenths
  let point (d : Nat) : Nat := d * tens * halves
  let d := scale middle / point 1
  let closed := x.significand % 2 = 0
  let within (p : Nat) : Bool :=
    if closed then scale below ≤ p && p ≤ scale above else scale below < p && p < scale above
  match within (point d), within (point (d + 1)) with
  | true, true =>
    let left := scale middle - point d
    let right := point (d + 1) - scale middle
    if left < right || (left = right && tie.keeps d) then some d else some (d + 1)
  | true, false => some d
  | false, true => some (d + 1)
  | false, false => none

/-- The place of the leading decimal digit of a magnitude that is not zero. -/
def leadingPlace (x : Binary64) : Int :=
  let (num, den) := x.ratio
  if den ≤ num then (digits (num / den)).length - 1
  else -((digits ((den + num - 1) / num - 1)).length : Int)

/-- A number without its final zeros, and how many there were. -/
def stripZeros : Nat → Nat → Nat × Nat
  | 0, n => (n, 0)
  | fuel + 1, n =>
    if n % 10 = 0 && n ≠ 0 then
      let (m, k) := stripZeros fuel (n / 10)
      (m, k + 1)
    else (n, 0)

/-- The digits of a magnitude that is not zero and the place of the leading one. -/
def shortest (tie : Tie) (x : Binary64) : List Char × Int :=
  let top := leadingPlace x
  let found := (List.range 17).findSome? fun (n : Nat) =>
    (gridPoint? tie x (top - n)).map fun d => (d, top - n)
  let (d, place) := found.getD (0, 0)
  let (d, zeros) := stripZeros 20 d
  let ds := digits d
  (ds, place + zeros + ds.length - 1)

/-- Digits with their leading one at `top`, written out in full. -/
def positional (ds : List Char) (top : Int) : List Char × List Char :=
  if top < 0 then (['0'], List.replicate (-top - 1).toNat '0' ++ ds)
  else
    let n := top.toNat + 1
    (ds.take n ++ List.replicate (n - ds.length) '0', ds.drop n)

def sign (x : Binary64) : List Char := if x.negative then ['-'] else []

/-- A point stands in every number that is written out in full. -/
def withPoint : List Char × List Char → List Char
  | (whole, []) => whole ++ ['.', '0']
  | (whole, fraction) => whole ++ '.' :: fraction

/-- The layout of values: from `10 ^ -5` up to below `10 ^ 16` in full, with a point; else one digit
before the point and an exponent that shows its sign.  Halfway, an even last digit goes. -/
def render (x : Binary64) : List Char :=
  if x.isZero then x.sign ++ "0.0".toList
  else
    let (ds, top) := shortest .toEven x
    if -5 ≤ top && top < 16 then x.sign ++ withPoint (positional ds top)
    else
      let mantissa := match ds with
        | d :: e :: rest => d :: '.' :: e :: rest
        | ds => ds
      let mark := if top < 0 then ['e', '-'] else ['e', '+']
      x.sign ++ mantissa ++ mark ++ digits top.natAbs

/-- The layout of messages: always in full, with a point only before a fraction.  Halfway, the larger last
digit goes. -/
def plain (x : Binary64) : List Char :=
  if x.isZero then x.sign ++ ['0']
  else
    let (ds, top) := shortest .up x
    match positional ds top with
    | (whole, []) => x.sign ++ whole
    | (whole, fraction) => x.sign ++ whole ++ '.' :: fraction

end RecordGate.Binary64
