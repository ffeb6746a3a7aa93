import RecordGate.Instant.Basic

/-!
# Reading an instant

The text is a date, a time of day and a zone, as in `2024-03-09T14:05:07.5+01:00`.  The reader is
lenient where it does no harm: numbers may be short and have blanks before them, a blank may stand for the
`T`, a fraction may be of any length (nine digits count), and the zone may be `Z`, `UTC` or an offset with
or without a colon.  Second 60 is a leap second, at any minute.
-/

namespace RecordGate.Instant

open RecordGate.Text

/-- One digit or more, of which at most `width` are taken. -/
def digits? (width : Nat) (cs : List Char) : Option (Nat × List Char) :=
  match (cs.take width).takeWhile isDigit with
  | [] => none
  | ds => some (number ds, cs.drop ds.length)

/-- A number after blanks. -/
def field? (width : Nat) (cs : List Char) : Option (Nat × List Char) := digits? width (trimStart cs)

/-- A year: four digits at most, or any number of them after a sign. -/
def year? (cs : List Char) : Option (Int × List Char) :=
  match trimStart cs with
  | '-' :: cs => (digits? cs.length cs).map fun (n, rest) => (-(n : Int), rest)
  | '+' :: cs => (digits? cs.length cs).map fun (n, rest) => ((n : Int), rest)
  | cs => (digits? 4 cs).map fun (n, rest) => ((n : Int), rest)

/-- A mark after blanks. -/
def mark? (c : Char) (cs : List Char) : Option (List Char) :=
  match trimStart cs with
  | d :: rest => if d = c then some rest else none
  | [] => none

def date? (cs : List Char) : Option (Date × List Char) := do
  let (year, cs) ← year? cs
  let (month, cs) ← field? 2 (← mark? '-' cs)
  let (day, cs) ← field? 2 (← mark? '-' cs)
  some (⟨year, month, day⟩, cs)

/-- The nanoseconds of a fraction, if one stands here. -/
def fraction? : List Char → Option (Nat × List Char)
  | '.' :: cs => do
    let (n, rest) ← digits? 9 cs
    let taken := cs.length - rest.length
    some (n * Nat.pow 10 (9 - taken), rest.dropWhile isDigit)
  | cs => some (0, cs)

/-- Two digits that write a number below `limit`. -/
def pair? (limit : Nat) : List Char → Option (Nat × List Char)
  | a :: b :: rest =>
    if isDigit a && isDigit b && number [a, b] < limit then some (number [a, b], rest) else none
  | _ => none

/-- The seconds by which a zone is ahead of universal time. -/
def zone? (cs : List Char) : Option (Int × List Char) := do
  if lowerAscii (cs.take 3) = "utc".toList then some (0, cs.drop 3)
  else match cs with
    | [] => none
    | c :: cs =>
      if c = 'Z' || c = 'z' then some (0, cs)
      else if c = '+' || c = '-' || c = '\u2212' then do
        let (hours, cs) ← pair? 100 cs
        let (minutes, cs) ← pair? 60 (cs.dropWhile fun c => c = ':' || isBlank c)
        let seconds : Int := hours * 3600 + minutes * 60
        if 86400 ≤ seconds then none
        else some (if c = '+' then seconds else -seconds, cs)
      else none

/-- The instant at which clocks `offset` seconds ahead of universal time show the given reading. -/
def ofReading? (d : Date) (hour minute second nano : Nat) (offset : Int) : Option Instant :=
  if d.isValid && hour < 24 && minute < 60 && second ≤ 60 then
    let leap := second = 60
    let clock : Int := (hour * 3600 + minute * 60 + min second 59 : Nat)
    let total := dayNumber d * 86400 + clock - offset
    let day := total / 86400
    if dayNumber ⟨minYear, 1, 1⟩ ≤ day && day ≤ dayNumber ⟨maxYear, 12, 31⟩ then
      some ⟨day, Fin.ofNat 86400 (total % 86400).toNat, Fin.ofNat 1000000000 nano, leap⟩
    else none
  else none

/-- The instant that a text writes. -/
def read? (s : String) : Option Instant := do
  let (d, cs) ← date? s.toList
  let cs ← match cs with
    | c :: rest => if c = 'T' || c = 't' || c = ' ' then some rest else none
    | [] => none
  let (hour, cs) ← field? 2 cs
  let (minute, cs) ← field? 2 (← mark? ':' cs)
  let (second, cs) ← field? 2 (← mark? ':' cs)
  let (nano, cs) ← fraction? cs
  let (offset, cs) ← zone? (trimStart cs)
  if (trimStart cs).isEmpty then ofReading? d hour minute second nano offset else none

end RecordGate.Instant
