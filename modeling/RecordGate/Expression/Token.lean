import RecordGate.Path
import RecordGate.Binary64.Shortest

/-!
# Tokens of the rule language

A rule is cut into quoted texts, numbers, the words `true`, `false` and `null`, paths, operators and
parentheses, with blanks between them.  `describe` is how a message names a token; `SyntaxError` lists
what can be wrong with a rule, with offsets in bytes.
-/

namespace RecordGate.Expression

open RecordGate.Text

inductive Token where
  | text (s : String)
  | number (x : Binary64)
  | yes
  | no
  | null
  | path (p : Path)
  | equal
  | unequal
  | less
  | lessEqual
  | greater
  | greaterEqual
  | and
  | or
  | not
  | opening
  | closing
  deriving DecidableEq, Inhabited

def Token.describe : Token → String
  | text s => "string '" ++ s ++ "'"
  | number x => "number " ++ String.ofList x.plain
  | yes => "'true'"
  | no => "'false'"
  | null => "'null'"
  | path p => "identifier '" ++ p.toString ++ "'"
  | equal => "'=='"
  | unequal => "'!='"
  | less => "'<'"
  | lessEqual => "'<='"
  | greater => "'>'"
  | greaterEqual => "'>='"
  | and => "'&&'"
  | or => "'||'"
  | not => "'!'"
  | opening => "'('"
  | closing => "')'"

/-- A token and the byte at which it starts. -/
structure Located where
  token : Token
  offset : Nat
  deriving DecidableEq, Inhabited

/-- The greatest size of a rule, in bytes. -/
def maxLength : Nat := 4096

/-- How many negations and parentheses may stand around a part of a rule. -/
def maxDepth : Nat := 64

inductive SyntaxError where
  | empty
  | tooLong (length : Nat)
  | tooDeep
  | unexpectedChar (c : Char) (offset : Nat)
  | unterminatedText (offset : Nat)
  | invalidNumber (literal : String) (offset : Nat)
  | invalidPath (path : String) (offset : Nat)
  | unexpectedToken (found : Token) (offset : Nat)
  | unexpectedEnd
  deriving DecidableEq, Inhabited

def SyntaxError.message : SyntaxError → String
  | empty => "expression is empty"
  | tooLong length =>
    "expression is " ++ toString length ++ " bytes, limit is " ++ toString maxLength
  | tooDeep => "expression nests deeper than " ++ toString maxDepth ++ " levels"
  | unexpectedChar c offset =>
    "unexpected character '" ++ String.singleton c ++ "' at offset " ++ toString offset
  | unterminatedText offset => "unterminated string starting at offset " ++ toString offset
  | invalidNumber literal offset =>
    "invalid number '" ++ literal ++ "' at offset " ++ toString offset
  | invalidPath path offset => "invalid path '" ++ path ++ "' at offset " ++ toString offset
  | unexpectedToken found offset =>
    "unexpected " ++ found.describe ++ " at offset " ++ toString offset
  | unexpectedEnd => "unexpected end of expression"

end RecordGate.Expression
