import RecordGate.Channel.Counters
import RecordGate.Channel.Mail
import RecordGate.Channel.Request
import RecordGate.Workflow.Run

/-!
# Built-in actions

A built-in action has at most one effect on the outside.  `plan` decides which, from the action and its
filled parameters, or rejects the parameters; `perform` carries an effect out.  A channel that is not set
up has no effect, so that a missing integration never stops a workflow.
-/

namespace RecordGate.Builtin

/-- Which channels are set up, and how. -/
structure Setup where
  hasMailer : Bool
  hasSink : Bool
  chatUrl : Option String
  notifyTo : Option String
  timeoutMs : Nat
  deriving Inhabited

/-- What an action does to the outside. -/
inductive Effect where
  | nothing
  | count (name : String)
  | web (request : Request)
  | mail (mail : OutgoingMail)
  | record (params : Value) (event : Event)
  deriving Inhabited

/-! ### Planning -/

/-- The headline of a notice. -/
def headline (i : Invocation) : String := "[" ++ i.trigger ++ "] " ++ i.event.summary

/-- A mail, if there is a mailer. -/
def mailEffect (s : Setup) (m : OutgoingMail) : Effect := if s.hasMailer then .mail m else .nothing

def planNotifyMail (s : Setup) (i : Invocation) : Effect :=
  match s.notifyTo with
  | none => .nothing
  | some recipient => mailEffect s ⟨[recipient], headline i, (Value.ofTable i.event.data).pretty⟩

def planNotifyChat (s : Setup) (i : Invocation) : Effect :=
  match s.chatUrl with
  | none => .nothing
  | some url =>
    .web (.json "POST" url [] (.ofFields [("text", .text (headline i))]) s.timeoutMs)

/-- The method of a web request, `POST` unless a text names another. -/
def requestMethod (params : Value) : Except ActionError String :=
  match (params.field? "method").bind Value.text? with
  | none => .ok "POST"
  | some word =>
    match Request.method? word with
    | some method => .ok method
    | none => .error (.invalidParam "method" "invalid HTTP method")

def requestHeaders (params : Value) : Except ActionError (Entries Value) :=
  match params.field? "headers" with
  | none => .ok []
  | some .null => .ok []
  | some (.object fields) => .ok fields
  | some _ => .error (.invalidParam "headers" "expected an object")

/-- The body of a web request: the declared one, or one that says what happened. -/
def requestBody (i : Invocation) : Value :=
  match i.params.field? "body" with
  | some body => body
  | none =>
    .ofFields [("trigger", .text i.trigger), ("workflow", .text i.workflow),
      ("event", i.event.toValue)]

def planWebhook (s : Setup) (i : Invocation) : Except ActionError Effect :=
  match (i.params.field? "url").bind Value.text? with
  | none => .error (.missingParam "url")
  | some url => do
    let method ← requestMethod i.params
    let headers ← requestHeaders i.params
    .ok (.web (.json method url headers (requestBody i) s.timeoutMs))

/-- A list of texts. -/
def texts? : List Value → Option (List String)
  | [] => some []
  | v :: rest => do
    let s ← v.text?
    let ss ← texts? rest
    some (s :: ss)

/-- The recipients of a mail: one text, or a list of texts. -/
def recipients (params : Value) : Except ActionError (List String) :=
  match params.field? "to" with
  | none => .error (.missingParam "to")
  | some (.text s) => .ok [s]
  | some (.list []) => .error (.missingParam "to")
  | some (.list items) =>
    match texts? items with
    | some names => .ok names
    | none => .error (.invalidParam "to" "recipients must be strings")
  | some _ => .error (.invalidParam "to" "expected a string or list of strings")

/-- A text parameter, empty when it is missing or no text. -/
def textParam (params : Value) (name : String) : String :=
  ((params.field? name).bind Value.text?).getD ""

def planMail (s : Setup) (i : Invocation) : Except ActionError Effect := do
  let names ← recipients i.params
  .ok (mailEffect s ⟨names, textParam i.params "subject", textParam i.params "body"⟩)

/-- The effect of an action, or why its parameters are rejected. -/
def plan (s : Setup) (action : Action) (i : Invocation) : Except ActionError Effect :=
  match action with
  | .notifyMail => .ok (planNotifyMail s i)
  | .notifyChat => .ok (planNotifyChat s i)
  | .log _ => .ok .nothing
  | .count => .ok (.count i.trigger)
  | .webhook _ => planWebhook s i
  | .database _ => .ok (if s.hasSink then .record i.params i.event else .nothing)
  | .mail _ => planMail s i
  | .unrecognized _ => .ok .nothing

/-! ### Performing -/

/-- The channels themselves, over the state `τ` of what lies behind them.  The network answers with a
status, or with the reason why there is none. -/
structure Channels (τ : Type) where
  send : Request → τ → Except String Nat × τ
  deliver : OutgoingMail → τ → Except String Unit × τ
  write : Value → Event → τ → Except String Unit × τ

/-- The counters, and what lies behind the channels. -/
structure Desk (τ : Type) where
  counters : Counters
  outside : τ
  deriving Inhabited

variable {τ : Type}

/-- The reply to a web request. -/
def webReply (url : String) : Except String Nat → Reply ActionError
  | .ok status => if Request.isSuccess status then .done else .failed (.httpStatus url status)
  | .error reason => .failed (.transport url reason)

def plainReply (error : String → ActionError) : Except String Unit → Reply ActionError
  | .ok () => .done
  | .error reason => .failed (error reason)

/-- Carry out an effect. -/
def perform (c : Channels τ) (effect : Effect) (d : Desk τ) : Reply ActionError × Desk τ :=
  match effect with
  | .nothing => (.done, d)
  | .count name => (.done, { d with counters := d.counters.increment name })
  | .web request =>
    let (result, outside) := c.send request d.outside
    (webReply request.url result, { d with outside := outside })
  | .mail m =>
    let (result, outside) := c.deliver m d.outside
    (plainReply .mail result, { d with outside := outside })
  | .record params event =>
    let (result, outside) := c.write params event d.outside
    (plainReply .sink result, { d with outside := outside })

/-- The handler of the built-in actions. -/
def handle (s : Setup) (c : Channels τ) : Handler (Desk τ) := fun action i d =>
  match plan s action i with
  | .error e => (.failed e, d)
  | .ok effect => perform c effect d

end RecordGate.Builtin
