/-!
# Punycode

Punycode writes a text in ASCII: first its ASCII characters, then a hyphen if there are any, then where the
other characters go, smallest code point first.  Between two insertions only the number of
places and code points passed over is written, in digits whose weights adapt to the numbers
before (`bias`).  `encode` writes a text so and `decode?` reads it.
-/

namespace RecordGate.Text.Punycode

/-- The digits are the letters from `a` to `z`, then the digits from `0` to `9`. -/
def digitChar (n : Nat) : Char := Char.ofNat (if n < 26 then 97 + n else 22 + n)

/-- A digit below the threshold of its place ends a number; places are counted in steps of 36. -/
def threshold (bias place : Nat) : Nat :=
  if place ≤ bias then 1 else if bias + 26 ≤ place then 26 else place - bias

theorem threshold_pos (bias place : Nat) : 1 ≤ threshold bias place := by
  grind [threshold]

/-- The digits of a number from a place on, lowest first. -/
def numberFrom (bias place n : Nat) : List Char :=
  let t := threshold bias place
  if n < t then [digitChar n]
  else digitChar (t + (n - t) % (36 - t)) :: numberFrom bias (place + 36) ((n - t) / (36 - t))
termination_by n
decreasing_by
  have := threshold_pos bias place
  have := Nat.div_le_self (n - threshold bias place) (36 - threshold bias place)
  omega

/-- Small numbers leave the bias where it is; large ones raise it by a place for each factor of 35. -/
def settle (bias n : Nat) : Nat :=
  if 455 < n then settle (bias + 36) (n / 35) else bias + 36 * n / (n + 38)
termination_by n

/-- The bias after a number, with so many characters in place.  The first number, which also spans the
code points below the first character, counts for less. -/
def nextBias (n characters : Nat) (isFirst : Bool) : Nat :=
  let n := if isFirst then n / 700 else n / 2
  settle 0 (n + n / characters)

/-- What is written so far: the number of characters in place, the places and code points passed over since
the last one, and the bias for the next number. -/
structure Progress where
  digits : List Char
  placed : Nat
  passed : Nat
  bias : Nat

/-- Go past one character of the text, whose ASCII characters are so many, while a code point is placed. -/
def Progress.step (plain point : Nat) (p : Progress) (c : Char) : Progress :=
  if c.toNat < point then { p with passed := p.passed + 1 }
  else if c.toNat = point then
    { digits := p.digits ++ numberFrom p.bias 36 p.passed
      placed := p.placed + 1
      passed := 0
      bias := nextBias p.passed (p.placed + 1) (p.placed == plain) }
  else p

/-- Place code points one after the other, from the next possible one on. -/
def Progress.place (text : List Char) (plain next : Nat) (p : Progress) : List Nat → Progress
  | [] => p
  | point :: points =>
    let p := { p with passed := p.passed + (point - next) * (p.placed + 1) }
    let p := text.foldl (Progress.step plain point) p
    Progress.place text plain (point + 1) { p with passed := p.passed + 1 } points

/-- The different code points outside ASCII in a text, in order. -/
def points (text : List Char) : List Nat :=
  (((text.map Char.toNat).filter (128 ≤ ·)).mergeSort (· ≤ ·)).eraseDups

def encode (text : List Char) : List Char :=
  let plain := text.filter fun c => c.toNat < 128
  let p := Progress.place text plain.length 128 ⟨[], plain.length, 0, 72⟩ (points text)
  plain ++ (if plain.isEmpty then [] else ['-']) ++ p.digits

/-! ### Reading -/

/-- The value of a digit. -/
def digitValue? (c : Char) : Option Nat :=
  if 'a' ≤ c && c ≤ 'z' then some (c.toNat - 97)
  else if '0' ≤ c && c ≤ '9' then some (c.toNat - 22)
  else none

/-- The number that a text starts with, from a place with some weight on and added to `n`, and the rest. -/
def readNumber? (bias place weight n : Nat) : List Char → Option (Nat × List Char)
  | [] => none
  | c :: cs => do
    let d ← digitValue? c
    let t := threshold bias place
    if d < t then some (n + d * weight, cs)
    else readNumber? bias (place + 36) (weight * (36 - t)) (n + d * weight) cs

theorem length_of_readNumber? {bias place weight n m : Nat} {cs rest : List Char}
    (h : readNumber? bias place weight n cs = some (m, rest)) : rest.length < cs.length := by
  induction cs generalizing place weight n with
  | nil => simp [readNumber?] at h
  | cons c cs ih =>
    simp only [readNumber?, Option.bind_eq_bind, Option.bind_eq_some_iff] at h
    obtain ⟨d, _, h⟩ := h
    split at h
    · simp only [Option.some.injEq, Prod.mk.injEq] at h
      simp [← h.2]
    · have := ih h
      simp only [List.length_cons]
      omega

/-- Place the characters that the numbers of a text say: the code point and the place last filled, and the
text so far. -/
def insertFrom? (bias point place : Nat) (text cs : List Char) : Option (List Char) :=
  if cs.isEmpty then some text
  else
    match h : readNumber? bias 36 1 place cs with
    | none => none
    | some (n, rest) =>
      have := length_of_readNumber? h
      let size := text.length + 1
      let point := point + n / size
      if point.isValidChar then
        insertFrom? (nextBias (n - place) size (place = 0)) point (n % size + 1)
          (text.insertIdx (n % size) (Char.ofNat point)) rest
      else none
termination_by cs.length

/-- The text that Punycode writes so.  The last hyphen ends its ASCII characters, if there are any before
it. -/
def decode? (cs : List Char) : Option (List Char) :=
  let tail := (cs.reverse.takeWhile (· ≠ '-')).reverse
  let plain := cs.take (cs.length - tail.length - 1)
  insertFrom? 72 128 0 plain (if plain.isEmpty then cs else tail)

end RecordGate.Text.Punycode
