import RecordGate.Document.Record
import RecordGate.Expression.Basic
import RecordGate.Principal

/-!
# Rule sets

An entity's rules say, action by action, which expression has to pass.  What an action without a rule
means is one setting for all entities.
-/

namespace RecordGate

/-- Actions with their rules. -/
abbrev RuleSet := Table String

namespace RuleSet

def toValue (rules : RuleSet) : Value := .ofTable (rules.map fun _ rule => .text rule)

def read? (d : Document) : Option RuleSet := d.table? Document.text?

/-- An action whose rule cannot be parsed. -/
structure Issue where
  action : String
  error : Expression.SyntaxError
  deriving DecidableEq

/-- The error in a rule, if there is one. -/
def error? (rule : String) : Option Expression.SyntaxError :=
  match Expression.parse rule with
  | .ok _ => none
  | .error e => some e

/-- The rules that cannot be parsed. -/
def issues (rules : RuleSet) : List Issue :=
  rules.entries.filterMap fun (action, rule) => (error? rule).map fun e => ⟨action, e⟩

end RuleSet

/-- What an action without a rule means. -/
inductive MissingRule where
  | allow
  | deny
  deriving DecidableEq, Inhabited

namespace MissingRule

def allows : MissingRule → Bool
  | allow => true
  | deny => false

def name : MissingRule → String
  | allow => "allow"
  | deny => "deny"

def ofName? : String → Option MissingRule
  | "allow" => some allow
  | "deny" => some deny
  | _ => none

/-- A setting that is neither of the two. -/
structure Unknown where
  setting : String
  deriving DecidableEq

def Unknown.message (u : Unknown) : String :=
  "unknown permission default '" ++ u.setting ++ "', expected allow or deny"

/-- A setting, in capitals or not and with blanks around it or not. -/
def ofSetting (setting : String) : Except Unknown MissingRule :=
  let word := String.ofList (Text.lowerAscii (Text.trim setting.toList))
  match ofName? word with
  | some m => .ok m
  | none => .error ⟨word⟩

def toValue (m : MissingRule) : Value := .text m.name

/-- A name, or an object with the name as its only member and `null` under it. -/
def read? : Document → Option MissingRule
  | .text s => ofName? s
  | .object [(s, .null)] => ofName? s
  | _ => none

end MissingRule

end RecordGate
