import RecordGate.Text.Blank

/-!
# Addresses of machines

An IPv4 address is four bytes with dots between them.  An IPv6 address is eight groups of hexadecimal digits
with colons between them; two colons in a row stand for one or more groups of zero, and the last
two groups may be written as an IPv4 address.
-/

namespace RecordGate

namespace IpAddress

open RecordGate.Text

/-- A byte in decimal digits, without leading zeros. -/
def isByte (cs : List Char) : Bool :=
  !cs.isEmpty && cs.length ≤ 3 && cs.all isDigit && (cs.length = 1 || cs.head? ≠ some '0')
    && number cs < 256

def isV4 (cs : List Char) : Bool :=
  let parts := splitAt '.' cs
  parts.length = 4 && parts.all isByte

def isHexDigit (c : Char) : Bool :=
  isDigit c || ('a' ≤ c && c ≤ 'f') || ('A' ≤ c && c ≤ 'F')

def isGroup (cs : List Char) : Bool := !cs.isEmpty && cs.length ≤ 4 && cs.all isHexDigit

/-- How many groups the parts between colons are.  The last part may be an IPv4 address, if one is allowed
to stand there. -/
def groups? (allowsV4 : Bool) : List (List Char) → Option Nat
  | [] => some 0
  | [part] => if isGroup part then some 1 else if allowsV4 && isV4 part then some 2 else none
  | part :: parts => if isGroup part then (groups? allowsV4 parts).map (· + 1) else none

/-- How many groups a text holds; the empty text holds none. -/
def groupsOf? (allowsV4 : Bool) (cs : List Char) : Option Nat :=
  if cs.isEmpty then some 0 else groups? allowsV4 (splitAt ':' cs)

/-- Cut a text at the first two colons in a row. -/
def cutAtGap? : List Char → Option (List Char × List Char)
  | ':' :: ':' :: rest => some ([], rest)
  | c :: rest => (cutAtGap? rest).map fun (before, after) => (c :: before, after)
  | [] => none

def isV6 (cs : List Char) : Bool :=
  match cutAtGap? cs with
  | none => groupsOf? true cs = some 8
  | some (before, after) =>
    match groupsOf? false before, groupsOf? true after with
    | some m, some n => m + n ≤ 7
    | _, _ => false

end IpAddress

def isIpAddress (cs : List Char) : Bool := IpAddress.isV4 cs || IpAddress.isV6 cs

end RecordGate
