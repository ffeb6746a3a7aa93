import RecordGate.Value.Basic
import RecordGate.Text.Blank

/-!
# Numerals

A numeral is the text of a JSON number cut into its parts.  Without a point and an exponent it stands
for an integer, if 64 bits hold it.  Any other stands for a double, found from a significand of 64 bits
and a power of ten: digits are taken into the significand as long as it stays in 64 bits, further digits
of the whole part count as places, and further digits of the fraction count for nothing.
-/

namespace RecordGate

open RecordGate.Text

structure Numeral where
  negative : Bool
  whole : List Char
  fraction : List Char
  exponent : Option Int

namespace Numeral

/-- One digit or more, and the rest. -/
def digits? (cs : List Char) : Option (List Char × List Char) :=
  match cs.takeWhile isDigit with
  | [] => none
  | ds => some (ds, cs.dropWhile isDigit)

/-- The part after a point: one digit or more. -/
def fraction? : List Char → Option (List Char × List Char)
  | '.' :: cs => digits? cs
  | cs => some ([], cs)

/-- The part after the letter `e`: a sign if need be, and one digit or more. -/
def exponentDigits? : List Char → Option (Int × List Char)
  | '-' :: cs => (digits? cs).map fun (ds, rest) => (-(number ds : Int), rest)
  | '+' :: cs => (digits? cs).map fun (ds, rest) => ((number ds : Int), rest)
  | cs => (digits? cs).map fun (ds, rest) => ((number ds : Int), rest)

def exponent? : List Char → Option (Option Int × List Char)
  | 'e' :: cs => (exponentDigits? cs).map fun (e, rest) => (some e, rest)
  | 'E' :: cs => (exponentDigits? cs).map fun (e, rest) => (some e, rest)
  | cs => some (none, cs)

/-- The whole part: a lone zero, or digits that do not start with one. -/
def whole? (cs : List Char) : Option (List Char × List Char) :=
  match digits? cs with
  | some ('0' :: _ :: _, _) => none
  | found => found

/-- A numeral at the start of a text, and the rest. -/
def read? (cs : List Char) : Option (Numeral × List Char) := do
  let (negative, cs) := match cs with
    | '-' :: cs => (true, cs)
    | cs => (false, cs)
  let (whole, cs) ← whole? cs
  let (fraction, cs) ← fraction? cs
  let (exponent, cs) ← exponent? cs
  some (⟨negative, whole, fraction, exponent⟩, cs)

/-- Take digits into a significand while 64 bits hold it; the digits left over. -/
def gather (significand : Nat) : List Char → Nat × List Char
  | [] => (significand, [])
  | d :: ds =>
    let next := 10 * significand + (d.toNat - 48)
    if next < 0x10000000000000000 then gather next ds else (significand, d :: ds)

/-- The double of a numeral; there is none when it is out of range. -/
def double? (n : Numeral) : Option Binary64 :=
  let (significand, places) := gather 0 n.whole
  let (significand, dropped) := gather significand n.fraction
  let place : Int := places.length - (n.fraction.length - dropped.length : Nat) + n.exponent.getD 0
  (Binary64.ofScaled? significand place).map fun x => if n.negative then x.negate else x

/-- The number that a numeral stands for.  Minus zero is a double. -/
def number? (n : Numeral) : Option Number :=
  let integer? : Option Whole :=
    if n.fraction.isEmpty && n.exponent.isNone then
      let i : Int := number n.whole
      if !n.negative then Whole.ofInt? i
      else if i = 0 then none
      else Whole.ofInt? (-i)
    else none
  match integer? with
  | some i => some (.int i)
  | none => n.double?.map .float

end Numeral

end RecordGate
