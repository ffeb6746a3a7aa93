import RecordGate.Principal
import RecordGate.Context
import RecordGate.Instant.Reader
import RecordGate.Text.Casing.Lower

/-!
# Events

An event tells that something happened to a record.  Workflows look at an event in two ways: a condition
sees the event's own names and the fields of its data beside them, an action's template sees the event's
own names and some derived from it.  The event's own names cannot be taken by its data.
-/

namespace RecordGate

structure Event where
  entity : String
  entityId : String
  behavior : Option String
  data : Table Value
  timestamp : Instant
  user : Option User
  deriving Inhabited

namespace Event

def withBehavior (e : Event) (behavior : String) : Event := { e with behavior := some behavior }

def withUser (e : Event) (user : User) : Event := { e with user := some user }

def withTimestamp (e : Event) (timestamp : Instant) : Event := { e with timestamp := timestamp }

/-- The trigger that an event goes by: its entity in lower case and its behaviour. -/
def defaultTrigger (e : Event) : Option String :=
  e.behavior.map fun behavior => Text.Casing.lower e.entity ++ "." ++ behavior

def toValue (e : Event) : Value :=
  .ofFields ([("entity", .text e.entity), ("entityId", .text e.entityId), ("data", .ofTable e.data),
    ("timestamp", .text e.timestamp.stamp)]
    ++ Entries.optional "behavior" (e.behavior.map .text)
    ++ Entries.optional "user" (e.user.map User.toValue))

def read? (d : Document) : Option Event := do
  let r ← Record.read? ["entity", "entityId", "behavior", "data", "timestamp", "user"] d
  let entity ← r.required "entity" Document.text?
  let entityId ← r.required "entityId" Document.text?
  let behavior ← r.nullable "behavior" Document.text?
  let data ← r.withDefault "data" .empty Document.fields?
  let timestamp ← r.required "timestamp" fun d => d.text?.bind Instant.read?
  let user ← r.nullable "user" User.read?
  some ⟨entity, entityId, behavior, data, timestamp, user⟩

/-! ### Views -/

/-- What a workflow's condition sees. -/
def conditionContext (e : Event) : Context :=
  Context.empty
    |>.bind "entity" (.text e.entity)
    |>.bind "entityId" (.text e.entityId)
    |>.bind "user" (.ofOption User.toValue e.user)
    |>.bind "timestamp" (.text e.timestamp.offsetStamp)
    |>.bind "behavior" (.ofOption .text e.behavior)
    |>.bind "data" (.ofTable e.data)
    |>.bindMissing e.data

/-- What the templates of an action see at the time `now`. -/
def templateRoot (e : Event) (now : Instant) : Value :=
  .ofFields [("entity", .text e.entity), ("entityId", .text e.entityId),
    ("behavior", .ofOption .text e.behavior), ("data", .ofTable e.data),
    ("timestamp", .text e.timestamp.offsetStamp), ("user", .ofOption User.toValue e.user),
    ("now", .text now.offsetStamp), ("date", .text (String.ofList now.writeDate)),
    ("time", .text (String.ofList now.writeTime)), ("entityType", .text e.entity),
    ("actionType", .ofOption .text e.behavior)]

/-- An event in a few words. -/
def summary (e : Event) : String :=
  match e.behavior with
  | some behavior => e.entity ++ " " ++ e.entityId ++ " " ++ behavior
  | none => e.entity ++ " " ++ e.entityId

end Event

end RecordGate
