import RecordGate.Document.Record
import RecordGate.Value.Printer

/-!
# Actions

A workflow declares its actions as specifications: a bare tag, a kind with parameters, or anything else,
which is kept as it is.  When the workflow is installed each specification is resolved, once, to an
action of a closed set; what it does not know stays as `unrecognized` and is passed over when the
workflow runs.
-/

namespace RecordGate

/-- An action as declared. -/
inductive ActionSpec where
  | tag (name : String)
  | typed (kind : String) (params : Value)
  | other (raw : Value)
  deriving Inhabited

namespace ActionSpec

def toValue : ActionSpec → Value
  | tag name => .text name
  | typed kind params => .ofFields [("type", .text kind), ("params", params)]
  | other raw => raw

/-- The kind that an object declares: a text under `type`, where neither `type` nor `params` is
repeated. -/
def kind? (members : List (String × Document)) : Option String :=
  if Record.occurrences "type" members ≤ 1 && Record.occurrences "params" members ≤ 1 then
    (Entries.find? "type" members).bind Document.text?
  else none

def read? (d : Document) : Option ActionSpec := do
  let raw ← d.value?
  some <| match d with
    | .text name => tag name
    | .object members =>
      match kind? members with
      | some kind => typed kind ((raw.field? "params").getD .null)
      | none => other raw
    | _ => other raw

end ActionSpec

/-- An action that can be run, with the parameters it was declared with. -/
inductive Action where
  | notifyMail
  | notifyChat
  | log (params : Value)
  | count
  | webhook (params : Value)
  | database (params : Value)
  | mail (params : Value)
  | unrecognized (raw : Value)
  deriving Inhabited

namespace Action

/-- The actions that a bare tag names. -/
def ofTag? : String → Option Action
  | "notify.email" => some notifyMail
  | "notify.slack" => some notifyChat
  | "log" => some (log .null)
  | "updateStats" => some count
  | _ => none

/-- An action of a kind that takes parameters, or one that a tag names too. -/
def ofKind? (kind : String) (params : Value) : Option Action :=
  match kind with
  | "webhook" => some (webhook params)
  | "database" => some (database params)
  | "email" => some (mail params)
  | "log" => some (log params)
  | other => ofTag? other

def ofSpec (spec : ActionSpec) : Action :=
  match spec with
  | .tag name => (ofTag? name).getD (unrecognized (.text name))
  | .typed kind params => (ofKind? kind params).getD (unrecognized spec.toValue)
  | .other raw => unrecognized raw

def kind : Action → String
  | notifyMail => "notify.email"
  | notifyChat => "notify.slack"
  | log _ => "log"
  | count => "updateStats"
  | webhook _ => "webhook"
  | database _ => "database"
  | mail _ => "email"
  | unrecognized _ => "unrecognized"

/-- The declared parameters, whose templates are filled when the action runs. -/
def params? : Action → Option Value
  | webhook params => some params
  | database params => some params
  | mail params => some params
  | log params => if params.isNull then none else some params
  | _ => none

def isRecognized : Action → Bool
  | unrecognized _ => false
  | _ => true

end Action

/-- Why an action failed. -/
inductive ActionError where
  | missingParam (name : String)
  | invalidParam (name reason : String)
  | httpStatus (url : String) (status : Nat)
  | transport (url reason : String)
  | mail (reason : String)
  | sink (reason : String)
  | panicked (reason : String)
  deriving DecidableEq, Inhabited

def ActionError.message : ActionError → String
  | missingParam name => "missing required param '" ++ name ++ "'"
  | invalidParam name reason => "invalid param '" ++ name ++ "': " ++ reason
  | httpStatus url status => url ++ " responded with status " ++ toString status
  | transport url reason => "request to " ++ url ++ " failed: " ++ reason
  | mail reason => "mail delivery failed: " ++ reason
  | sink reason => "record sink failed: " ++ reason
  | panicked reason => "action panicked: " ++ reason

end RecordGate
