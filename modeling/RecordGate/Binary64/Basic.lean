/-!
# Finite doubles

A finite double is a sign and the `rank` of its magnitude: its place in the increasing list of the
nonnegative finite doubles, which starts with zero at rank 0.  Ranks make comparison a comparison of
integers (`key`), and the two zeros fall together.  The magnitude itself is `significand · 2 ^ exponent`,
and every arithmetic result is the double nearest to an exact ratio of natural numbers (`ofRatio?`),
a tie going to the even significand.
-/

namespace RecordGate

/-- How many ranks cover one power of two. -/
def Binary64.block : Nat := Nat.pow 2 52

/-- The rank at which magnitudes stop being finite. -/
def Binary64.limit : Nat := 2047 * block

structure Binary64 where
  negative : Bool
  rank : Nat
  finite : rank < Binary64.limit
  deriving DecidableEq

namespace Binary64

def zero : Binary64 := ⟨false, 0, by decide⟩

instance : Inhabited Binary64 := ⟨zero⟩

/-- The rank with its sign, by which doubles are ordered. -/
def key (x : Binary64) : Int := if x.negative then -(x.rank : Int) else x.rank

/-- Equality of the numbers that two doubles stand for. -/
def same (x y : Binary64) : Bool := x.key == y.key

/-- The order of the numbers that two doubles stand for. -/
def less (x y : Binary64) : Bool := x.key < y.key

def isZero (x : Binary64) : Bool := x.rank == 0

theorem same_iff (x y : Binary64) : x.same y = true ↔ x.key = y.key := by simp [same]

/-! ### The magnitude as a ratio -/

/-- Ranks in the first block are the multiples of the smallest magnitude; above, each block covers one
power of two. -/
def significand (x : Binary64) : Nat :=
  if x.rank < block then x.rank else block + x.rank % block

def exponent (x : Binary64) : Int :=
  if x.rank < block then -1074 else (x.rank / block : Nat) - 1075

/-- `2 ^ e` as a ratio. -/
def powerOfTwo (e : Int) : Nat × Nat :=
  match e with
  | .ofNat k => (Nat.pow 2 k, 1)
  | .negSucc k => (1, Nat.pow 2 (k + 1))

/-- `10 ^ e` as a ratio. -/
def powerOfTen (e : Int) : Nat × Nat :=
  match e with
  | .ofNat k => (Nat.pow 10 k, 1)
  | .negSucc k => (1, Nat.pow 10 (k + 1))

/-- The magnitude as a ratio of natural numbers. -/
def ratio (x : Binary64) : Nat × Nat :=
  let (num, den) := powerOfTwo x.exponent
  (x.significand * num, den)

/-! ### Rounding -/

/-- The quotient rounded to the nearest natural number, a tie to the even one. -/
def roundDiv (num den : Nat) : Nat :=
  let q := num / den
  let r := num % den
  if den < 2 * r || (2 * r == den && q % 2 == 1) then q + 1 else q

/-- The exponent of the last binary place that a double near `num / den` has. -/
def lastPlace (num den : Nat) : Int :=
  let guess : Int := max (-1074) ((num.log2 : Int) - den.log2 - 53)
  let (twos, halves) := powerOfTwo guess
  if 2 * block ≤ num * halves / (den * twos) then guess + 1 else guess

/-- The rank of the magnitude nearest to `num / den`; it is not below `limit` when the ratio is too
great for a double. -/
def rankOf (num den : Nat) : Nat :=
  if num = 0 || den = 0 then 0 else
    let place := lastPlace num den
    let (twos, halves) := powerOfTwo place
    (place + 1074).toNat * block + roundDiv (num * halves) (den * twos)

/-- The double nearest to a ratio, if it is finite. -/
def ofRatio? (negative : Bool) (num den : Nat) : Option Binary64 :=
  let rank := rankOf num den
  if finite : rank < limit then some ⟨negative, rank, finite⟩ else none

/-- The double nearest to an integer; integers past the greatest double, which none of 64 bits is,
give the greatest double. -/
def ofInt (i : Int) : Binary64 :=
  ⟨i < 0, min (rankOf i.natAbs 1) (limit - 1), by
    have : 0 < limit := by decide
    omega⟩

/-- The product rounded once. -/
def times? (x y : Binary64) : Option Binary64 :=
  ofRatio? (x.negative != y.negative) (x.ratio.1 * y.ratio.1) (x.ratio.2 * y.ratio.2)

/-- The quotient rounded once; there is none by zero. -/
def over? (x y : Binary64) : Option Binary64 :=
  if y.isZero then none
  else ofRatio? (x.negative != y.negative) (x.ratio.1 * y.ratio.2) (x.ratio.2 * y.ratio.1)

def negate (x : Binary64) : Binary64 := ⟨!x.negative, x.rank, x.finite⟩

/-- `significand · 10 ^ exponent`, rounded once. -/
def ofDecimal? (significand : Nat) (exponent : Int) : Option Binary64 :=
  let (tens, tenths) := powerOfTen exponent
  ofRatio? false (significand * tens) tenths

/-- `significand · 10 ^ exponent` in three roundings: the significand, the power of ten, and their
product or quotient.  Powers of ten past `10 ^ 308` have no double: above them there is no result,
below them the quotient is taken in steps, and two steps already reach zero. -/
def ofScaled? (significand : Nat) (exponent : Int) : Option Binary64 :=
  let s := ofInt significand
  if significand = 0 then some zero
  else if exponent > 308 then none
  else if 0 ≤ exponent then do s.times? (← ofDecimal? 1 exponent)
  else if -308 ≤ exponent then do s.over? (← ofDecimal? 1 (-exponent))
  else if -616 ≤ exponent then do
    (← s.over? (← ofDecimal? 1 308)).over? (← ofDecimal? 1 (-exponent - 308))
  else some zero

end Binary64

end RecordGate
