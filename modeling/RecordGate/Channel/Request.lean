import RecordGate.Value.Printer
import RecordGate.Text.Blank

/-!
# Web requests

A request carries a JSON body, which its first header says; the headers that its sender declares come
after it.  Methods are written in capitals, and any word of method characters is one.
-/

namespace RecordGate

structure Request where
  method : String
  url : String
  headers : List (String × String)
  body : Value
  timeoutMs : Nat
  deriving Inhabited

namespace Request

def isMethodChar (c : Char) : Bool :=
  Text.isLetter c || Text.isDigit c
    || ['!', '*', '+', '-', '.', '^', '_', '\x60', '|', '~'].contains c

/-- The method that a word names. -/
def method? (word : String) : Option String :=
  let cs := Text.upperAscii word.toList
  if !cs.isEmpty && cs.all isMethodChar then some (String.ofList cs) else none

/-- The text of a header's value: a text as it is, any other value as compact JSON. -/
def headerText : Value → String
  | .text s => s
  | v => v.compact

/-- A request with the headers that its sender declares. -/
def json (method url : String) (declared : Entries Value) (body : Value) (timeoutMs : Nat) : Request :=
  ⟨method, url,
    ("content-type", "application/json") :: declared.map fun (name, v) => (name, headerText v),
    body, timeoutMs⟩

/-- The statuses of success. -/
def isSuccess (status : Nat) : Bool := 200 ≤ status && status < 300

end Request

end RecordGate
