import RecordGate.Principal
import RecordGate.Context
import RecordGate.Value.Printer

/-!
# What a rule sees

A rule sees the caller's user, the record, the action, and shortcuts that say how the two belong
together.  Without a record the shortcuts are false.  Identifiers may be stored as texts or as numbers, so
they are compared by their text.
-/

namespace RecordGate.Permission

/-- The fields of a record that name a user. -/
def ownerField : String := "createdBy"

def userField : String := "userId"

def assigneeField : String := "assignedTo"

/-- Whether a field holds a user's identifier. -/
def holdsId (field : Option Value) (id : Option String) : Bool :=
  match field, id with
  | some (.text s), some id => s == id
  | some (.number n), some id => n.render == id.toList
  | _, _ => false

/-- The context of a rule for an action on a record, or on a whole collection. -/
def context (caller : Caller) (snapshot : Option Snapshot) (action : String) : Context :=
  let user := caller.user
  let id := user.map (·.id)
  let role := user.map (·.role)
  let field (name : String) : Option Value := snapshot.bind (·.find? name)
  Context.empty
    |>.bind "authenticated" (.bool (caller.authenticated && user.isSome))
    |>.bind "action" (.text action)
    |>.bind "user" (.ofOption User.toValue user)
    |>.bind "entity" (.ofOption .ofTable snapshot)
    |>.bind "userId" (.ofOption .text id)
    |>.bind "role" (.ofOption .text role)
    |>.bind "isAdmin" (.bool (role == some User.adminRole))
    |>.bind "owner" ((field ownerField).getD .null)
    |>.bind "isOwner" (.bool (holdsId (field ownerField) id))
    |>.bind "isEntityUser" (.bool (holdsId (field userField) id))
    |>.bind "isAssignee" (.bool (holdsId (field assigneeField) id))

end RecordGate.Permission
