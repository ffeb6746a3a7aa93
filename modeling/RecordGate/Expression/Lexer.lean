import RecordGate.Expression.Token

/-!
# Cutting a rule into tokens

`lexeme` reads the token that starts at a character and says how many of the characters after it belong
to the token; `scan` goes through a rule from the left and skips what a token has taken.  A token is as
long as it can be, and what stands before a token never changes how it is read.
-/

namespace RecordGate.Expression

open RecordGate.Text

/-- The characters that a path can start with. -/
def isPathStart (c : Char) : Bool := isLetter c || c = '_' || c = '$'

/-- The characters of a path inside a rule; a minus sign is not one of them. -/
def isPathChar (c : Char) : Bool :=
  isLetter c || isDigit c || c = '_' || c = '$' || c = '.' || c = '[' || c = ']'

def isNumberChar (c : Char) : Bool := isDigit c || c = '.'

/-- What a character after a backslash stands for. -/
def unescape (c : Char) : Char :=
  if c = 'n' then '\n' else if c = 't' then '\t' else c

/-- A quoted text after its opening quote: what it says, and how many characters it takes with its
closing quote. -/
def quoted? (quote : Char) : List Char → Option (List Char × Nat)
  | [] => none
  | c :: rest =>
    if c = quote then some ([], 1)
    else if c = '\\' then
      match rest with
      | [] => none
      | e :: rest => (quoted? quote rest).map fun (said, n) => (unescape e :: said, n + 2)
    else (quoted? quote rest).map fun (said, n) => (c :: said, n + 1)

/-- Digits with at most one point among them and at least one digit, as a double. -/
def magnitude? (negative : Bool) (cs : List Char) : Option Binary64 :=
  let whole := cs.takeWhile isDigit
  let fraction := (cs.dropWhile isDigit).drop 1
  if fraction.all isDigit && !(whole ++ fraction).isEmpty then
    Binary64.ofRatio? negative (number (whole ++ fraction)) (Nat.pow 10 fraction.length)
  else none

/-- The double that a number literal writes, if there is one. -/
def literal? : List Char → Option Binary64
  | '-' :: cs => magnitude? true cs
  | cs => magnitude? false cs

/-- The token of a word: one of the three constants, or a path. -/
def word? (cs : List Char) : Option Token :=
  if cs = "true".toList then some .yes
  else if cs = "false".toList then some .no
  else if cs = "null".toList then some .null
  else (Path.ofChars? cs).map .path

/-- How many equals signs, at most two, a text starts with. -/
def equalsSigns : List Char → Nat
  | '=' :: '=' :: _ => 2
  | '=' :: _ => 1
  | _ => 0

/-- The token that starts with `c`, and how many of the characters after `c` belong to it. -/
def lexeme (offset : Nat) (c : Char) (rest : List Char) : Except SyntaxError (Token × Nat) :=
  if c = '(' then .ok (.opening, 0)
  else if c = ')' then .ok (.closing, 0)
  else if c = '=' then
    if equalsSigns rest = 0 then .error (.unexpectedChar c offset)
    else .ok (.equal, equalsSigns rest)
  else if c = '!' then
    if equalsSigns rest = 0 then .ok (.not, 0) else .ok (.unequal, equalsSigns rest)
  else if c = '<' then
    if equalsSigns rest = 0 then .ok (.less, 0) else .ok (.lessEqual, 1)
  else if c = '>' then
    if equalsSigns rest = 0 then .ok (.greater, 0) else .ok (.greaterEqual, 1)
  else if c = '&' || c = '|' then
    if rest.head? = some c then .ok (if c = '&' then .and else .or, 1)
    else .error (.unexpectedChar c offset)
  else if c = '\'' || c = '"' then
    match quoted? c rest with
    | some (said, n) => .ok (.text (String.ofList said), n)
    | none => .error (.unterminatedText offset)
  else if isDigit c || c = '-' then
    let more := rest.takeWhile isNumberChar
    match literal? (c :: more) with
    | some x => .ok (.number x, more.length)
    | none => .error (.invalidNumber (String.ofList (c :: more)) offset)
  else if isPathStart c then
    let more := rest.takeWhile isPathChar
    match word? (c :: more) with
    | some token => .ok (token, more.length)
    | none => .error (.invalidPath (String.ofList (c :: more)) offset)
  else .error (.unexpectedChar c offset)

/-- The tokens of a text that starts at byte `offset` and whose first `skip` characters are taken. -/
def scan (offset : Nat) : (skip : Nat) → List Char → Except SyntaxError (List Located)
  | _, [] => .ok []
  | skip + 1, c :: rest => scan (offset + c.utf8Size) skip rest
  | 0, c :: rest =>
    if isBlank c then scan (offset + c.utf8Size) 0 rest
    else
      match lexeme offset c rest with
      | .error e => .error e
      | .ok (token, taken) => (scan (offset + c.utf8Size) taken rest).map (⟨token, offset⟩ :: ·)

/-- The tokens of a rule. -/
def tokens (source : List Char) : Except SyntaxError (List Located) := scan 0 0 source

end RecordGate.Expression
