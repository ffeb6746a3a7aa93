import RecordGate.Channel.DomainName

/-!
# Mailboxes

A mailbox is an address, or a display name with the address in angle brackets after it.  An address has a
local part and a host, with an at sign between them.  Readers take what they read from the
front of a text and return the rest (`quoted?`, `dotted?`, `spec?`, `afterBracket?`).
-/

namespace RecordGate.Mailbox

open RecordGate.Text

/-- The blanks within a line. -/
def isGap (c : Char) : Bool := c = ' ' || c = '\t'

/-- The characters of a word: ASCII letters, digits and marks, and all that is not ASCII. -/
def isWordChar (c : Char) : Bool :=
  isLetter c || isDigit c || isAddressMark c || 128 ≤ c.toNat

/-- The characters that stand for themselves in quotes: all but NUL, blanks and ends of lines, the quote and
the backslash. -/
def isQuotable (c : Char) : Bool :=
  !(['\x00', '\t', '\n', '\r', ' ', '"', '\\'].contains c)

/-- The characters that may stand after a backslash: ASCII without NUL and the ends of lines. -/
def isEscapable (c : Char) : Bool :=
  c.toNat < 128 && c ≠ '\x00' && c ≠ '\n' && c ≠ '\r'

/-- The content of quotes, read on after the opening quote, and the rest after the closing one.  Blanks in a
row count as the first of them (`gap`), and those before the closing quote for nothing. -/
def quoted? (gap : Option Char) : List Char → Option (List Char × List Char)
  | [] => none
  | '"' :: rest => some ([], rest)
  | '\\' :: c :: rest =>
    if isEscapable c then
      (quoted? none rest).map fun (content, rest) => (gap.toList ++ c :: content, rest)
    else none
  | c :: rest =>
    if isGap c then quoted? (gap.or (some c)) rest
    else if isQuotable c then
      (quoted? none rest).map fun (content, rest) => (gap.toList ++ c :: content, rest)
    else none

/-- Words joined by single dots, with blanks before them or not. -/
def dotted? (cs : List Char) : Option (List Char × List Char) :=
  let cs := cs.dropWhile isGap
  let words := cs.takeWhile fun c => isWordChar c || c = '.'
  if (splitAt '.' words).all (!·.isEmpty) then some (words, cs.drop words.length) else none

/-- A local part as it is written: in quotes, or words joined by dots. -/
def localPart? : List Char → Option (List Char × List Char)
  | '"' :: rest => quoted? none rest
  | cs => dotted? cs

/-! ### Addresses -/

/-- A printing character of ASCII that is no blank. -/
def isPrinting (c : Char) : Bool := '!' ≤ c && c ≤ '~'

/-- What a local part that keeps quotes of its own says in them: printing characters and blanks, quotes and
backslashes only after a backslash. -/
def isQuotedContent : List Char → Bool
  | [] => true
  | '\\' :: c :: rest => isPrinting c && isQuotedContent rest
  | c :: rest => (isGap c || (isPrinting c && c ≠ '"' && c ≠ '\\')) && isQuotedContent rest

/-- A local part has at most 64 bytes: words joined by dots, or quotes around more. -/
def isLocalPart (cs : List Char) : Bool :=
  byteLength cs ≤ 64 &&
    if cs.head? = some '"' && cs.getLast? = some '"' then
      2 < cs.length && isQuotedContent (cs.drop 1).dropLast
    else
      (splitAt '.' cs).all fun word =>
        !word.isEmpty && word.all fun c => isAlphanumeric c || isAddressMark c

/-- The address that a text starts with, and the rest. -/
def spec? (cs : List Char) : Option (List Char × List Char) :=
  match localPart? cs with
  | some (localPart, '@' :: rest) =>
    match dotted? rest with
    | some (domain, rest) =>
      if isLocalPart localPart && isHost domain then
        some (localPart ++ '@' :: domain, rest)
      else none
    | none => none
  | _ => none

/-! ### Display names -/

/-- What may follow the first word of a display name: words, dots, blanks and quoted texts, up to an
opening bracket.  Gives the rest after the bracket. -/
def afterName? (isQuoting : Bool) : List Char → Option (List Char)
  | [] => none
  | '"' :: rest => afterName? (!isQuoting) rest
  | '\\' :: c :: rest => if isQuoting && isEscapable c then afterName? true rest else none
  | c :: rest =>
    if isQuoting then if isGap c || isQuotable c then afterName? true rest else none
    else if c = '<' then some rest
    else if isWordChar c || c = '.' || isGap c then afterName? false rest
    else none

/-- The rest of a text after a display name and the opening bracket.  The name may be missing, and starts
with a word if not. -/
def afterBracket? : List Char → Option (List Char)
  | '.' :: _ => none
  | cs => afterName? false cs

/-- The address in a mailbox, if the text is a mailbox. -/
def address? (s : String) : Option String :=
  let cs := trim s.toList
  match (afterBracket? cs).bind spec? with
  | some (address, ['>']) => some (String.ofList address)
  | _ =>
    match spec? cs with
    | some (address, []) => some (String.ofList address)
    | _ => none

end RecordGate.Mailbox
