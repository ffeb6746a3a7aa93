import RecordGate.Channel.DomainName.Table
import RecordGate.Channel.IpAddress
import RecordGate.Text.Alphanumeric
import RecordGate.Text.Composition
import RecordGate.Text.Direction
import RecordGate.Text.Joining
import RecordGate.Text.Punycode

/-!
# Domain names

A host is a domain name, which is labels with dots between them, or the address of a machine, which may
stand in square brackets.  A name that its letters or its length rule out may still stand for a host
in ASCII (`plain?`): characters that are written in several forms take one of them, the text is
composed, and a label that still has characters outside ASCII is written in Punycode.  Labels
that are in Punycode already have to be what writing their text gives.
-/

namespace RecordGate

open RecordGate.Text

/-- The characters of a word in an address that are neither letters nor digits. -/
def isAddressMark (c : Char) : Bool :=
  ['!', '#', '$', '%', '&', '\'', '*', '+', '-', '/', '=', '?', '^', '_', '\x60', '\x7b', '|',
    '\x7d', '~'].contains c

namespace DomainName

/-- A label has at most 63 bytes and starts and ends with a letter or a digit. -/
def isLabel (cs : List Char) : Bool :=
  cs.head?.any isAlphanumeric && cs.getLast?.any isAlphanumeric && byteLength cs ≤ 63
    && cs.all fun c => isAlphanumeric c || isAddressMark c

/-- A text within the square brackets around it, if it stands in them. -/
def bracketed? (cs : List Char) : Option (List Char) :=
  match cs with
  | '[' :: rest => if rest.getLast? = some ']' then some rest.dropLast else none
  | _ => none

/-- What may stand in square brackets: ASCII without blanks, brackets and backslashes. -/
def isLiteral (cs : List Char) : Bool :=
  cs.all fun c => ('!' ≤ c && c ≤ '~') && !(['[', '\\', ']'].contains c)

/-- A host that needs no other form, of at most 254 bytes if it is not the address of a machine. -/
def isDirect (cs : List Char) : Bool :=
  byteLength cs ≤ 254 &&
    (match bracketed? cs with
      | some literal => isLiteral literal
      | none => (splitAt '.' cs).all isLabel)
    || isIpAddress ((bracketed? cs).getD cs)

/-! ### Names in ASCII -/

def isAscii (c : Char) : Bool := c.toNat < 128

/-- What a character of a name stands for; some characters have no place in a name. -/
def form? (c : Char) : Option (List Char) :=
  if isAscii c then some (lowerAscii [c])
  else if inRanges ignoredRanges c then some []
  else if inRanges usableRanges c then
    match counterpart? formRuns c with
    | some d => some [d]
    | none =>
      match formTexts.find? (·.1 == c.toNat) with
      | some (_, form) => some (form.map Char.ofNat)
      | none => some [c]
  else none

/-- A text in the forms of its characters, composed. -/
def normal? (cs : List Char) : Option (List Char) :=
  (cs.mapM form?).map fun forms => Composition.composed forms.flatten

/-- The mark of a label in Punycode. -/
def codeMark : List Char := "xn--".toList

/-- What the text of a label starts with is no mark, and its joiners have a meaning. -/
def isWellFormed (cs : List Char) : Bool :=
  !cs.head?.any (inRanges markRanges) && Joining.areMeant cs

/-- The text of a label: what it says in Punycode, or itself. -/
def labelText? (cs : List Char) : Option (List Char) :=
  if codeMark.isPrefixOf cs then
    if cs.all isAscii then
      match Punycode.decode? (cs.drop codeMark.length) with
      | some text =>
        if !text.all isAscii && normal? text = some text && !codeMark.isPrefixOf text && isWellFormed text
        then some text
        else none
      | none => none
    else none
  else if isWellFormed cs then some cs
  else none

/-- A label in ASCII. -/
def plainLabel (cs : List Char) : List Char :=
  if cs.all isAscii then cs else codeMark ++ Punycode.encode cs

/-- A name in ASCII.  Where a name turns to the left, each of its labels keeps to one direction. -/
def plain? (cs : List Char) : Option (List Char) := do
  let name ← normal? cs
  let labels := splitAt '.' name
  let texts ← labels.mapM labelText?
  if texts.any Direction.turns && !texts.all fun text => text.isEmpty || Direction.isSteady text then none
  else some (['.'].intercalate (labels.map plainLabel))

end DomainName

/-- A host, or a text that stands for one. -/
def isHost (cs : List Char) : Bool :=
  DomainName.isDirect cs || (DomainName.plain? cs).any DomainName.isDirect

end RecordGate
