import RecordGate.Instant.Calendar
import RecordGate.Text.Blank

/-!
# Instants

An instant is a moment in universal time: a day, a second of the day and a nanosecond.  A leap second is
counted as the second before it with a mark.  `iso` writes an instant with no fraction or the shortest
of three, six and nine digits that is exact.
-/

namespace RecordGate

open RecordGate.Text

structure Instant where
  day : Int
  second : Fin 86400
  nano : Fin 1000000000
  leap : Bool
  deriving DecidableEq, Inhabited

namespace Instant

/-- Digits of a number, with zeros before them up to a width. -/
def padded (width n : Nat) : List Char :=
  let ds := digits n
  List.replicate (width - ds.length) '0' ++ ds

/-- Years of four digits stand alone, others carry a sign. -/
def writeYear (year : Int) : List Char :=
  if 0 ≤ year && year ≤ 9999 then padded 4 year.natAbs
  else (if year < 0 then '-' else '+') :: padded 4 year.natAbs

def writeDate (t : Instant) : List Char :=
  let d := date t.day
  writeYear d.year ++ '-' :: padded 2 d.month ++ '-' :: padded 2 d.day

def writeTime (t : Instant) : List Char :=
  let s := t.second.val
  padded 2 (s / 3600) ++ ':' :: padded 2 (s / 60 % 60)
    ++ ':' :: padded 2 (s % 60 + if t.leap then 1 else 0)

def writeFraction (t : Instant) : List Char :=
  let n := t.nano.val
  if n = 0 then []
  else if n % 1000000 = 0 then '.' :: padded 3 (n / 1000000)
  else if n % 1000 = 0 then '.' :: padded 6 (n / 1000)
  else '.' :: padded 9 n

/-- The text of an instant with the given mark for universal time. -/
def iso (zone : String) (t : Instant) : String :=
  String.ofList (t.writeDate ++ 'T' :: t.writeTime ++ t.writeFraction ++ zone.toList)

/-- The text of an instant in a record. -/
def stamp (t : Instant) : String := t.iso "Z"

/-- The text of an instant in a context. -/
def offsetStamp (t : Instant) : String := t.iso "+00:00"

end Instant

end RecordGate
