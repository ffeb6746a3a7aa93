import RecordGate.Text.Composition.Table
import RecordGate.Text.CodePoints

/-!
# Composed texts

Texts that look alike can be spelt with composed characters or with letters and marks.  `composed` gives
the one spelling in which each character is composed as far as it can be, which is the composed normal
form of the Unicode standard: take all characters apart, put the marks after a letter in the
order of their classes, and compose again from the front.
-/

namespace RecordGate.Text.Composition

/-- The combining class of a mark; zero for any other character. -/
def combiningClass (c : Char) : Nat :=
  match classRanges.find? fun (first, last, _) => first ≤ c.toNat && c.toNat ≤ last with
  | some (_, _, k) => k
  | none => 0

/-! ### Hangul syllables -/

/-- A syllable of 28 * 21 for each leading consonant, 28 for each vowel, as its parts. -/
def syllableParts (n : Nat) : List Char :=
  let parts := [Char.ofNat (0x1100 + n / 588), Char.ofNat (0x1161 + n % 588 / 28)]
  if n % 28 = 0 then parts else parts ++ [Char.ofNat (0x11A7 + n % 28)]

/-- The syllable of a consonant and a vowel, or of an open syllable and a final consonant. -/
def syllable? (a b : Nat) : Option Char :=
  if 0x1100 ≤ a && a < 0x1113 && 0x1161 ≤ b && b < 0x1176 then
    some (Char.ofNat (0xAC00 + ((a - 0x1100) * 21 + (b - 0x1161)) * 28))
  else if 0xAC00 ≤ a && a < 0xD7A4 && (a - 0xAC00) % 28 = 0 && 0x11A8 ≤ b && b < 0x11C3 then
    some (Char.ofNat (a + (b - 0x11A7)))
  else none

/-! ### Taking apart and putting together -/

/-- The parts of a character, its first part taken apart in turn so many times. -/
def partsOf : Nat → Char → List Char
  | 0, c => [c]
  | depth + 1, c =>
    let n := c.toNat
    if 0xAC00 ≤ n && n < 0xD7A4 then syllableParts (n - 0xAC00)
    else match pairs.find? (·.1 == n) with
      | some (_, a, b) => partsOf depth (Char.ofNat a) ++ [Char.ofNat b]
      | none =>
        match singles.find? (·.1 == n) with
        | some (_, a) => [Char.ofNat a]
        | none =>
          match several.find? (·.1 == n) with
          | some (_, parts) => parts.map Char.ofNat
          | none => [c]

/-- A character taken apart: no character has parts within parts more than three times. -/
def apart (c : Char) : List Char := partsOf 4 c

/-- The character that two others compose. -/
def pair? (a b : Char) : Option Char :=
  match syllable? a.toNat b.toNat with
  | some c => some c
  | none => (pairs.find? fun (_, x, y) => x == a.toNat && y == b.toNat).map fun p => Char.ofNat p.1

def sortMarks (marks : List Char) : List Char :=
  marks.mergeSort fun a b => combiningClass a ≤ combiningClass b

/-- The marks between two letters in the order of their classes, after those read already. -/
def orderedFrom (marks : List Char) : List Char → List Char
  | [] => sortMarks marks
  | c :: rest =>
    if combiningClass c = 0 then sortMarks marks ++ c :: orderedFrom [] rest
    else orderedFrom (marks ++ [c]) rest

/-- Compose the characters that follow a letter with it.  One that stands after a mark of its own class or a
higher one cannot reach the letter; `marks` holds the marks that stay behind it. -/
def composeFrom (letter : Char) (marks : List Char) : List Char → List Char
  | [] => letter :: marks
  | c :: rest =>
    let k := combiningClass c
    let reaches := match marks.getLast? with
      | none => true
      | some mark => combiningClass mark < k
    match if reaches then pair? letter c else none with
    | some composed => composeFrom composed marks rest
    | none =>
      if k = 0 then letter :: marks ++ composeFrom c [] rest
      else composeFrom letter (marks ++ [c]) rest

/-- Compose all letters of a text with what follows them. -/
def compose : List Char → List Char
  | [] => []
  | c :: rest => if combiningClass c = 0 then composeFrom c [] rest else c :: compose rest

/-- The composed spelling of a text. -/
def composed (cs : List Char) : List Char := compose (orderedFrom [] (cs.flatMap apart))

end RecordGate.Text.Composition
