import RecordGate.Document.Record

/-!
# Users and callers

A user is what the gate knows of a person.  A caller is a request's claim to act for a user: it may carry
a user without being authenticated, and the flag without a user.
-/

namespace RecordGate

structure User where
  id : String
  email : String
  name : Option String
  role : String
  isActive : Bool
  deriving DecidableEq, Inhabited

namespace User

def defaultRole : String := "user"

/-- The role that makes an administrator. -/
def adminRole : String := "admin"

/-- An active user of the default role, without a name. -/
def ofIdentity (id email : String) : User := ⟨id, email, none, defaultRole, true⟩

def withName (u : User) (name : String) : User := { u with name := some name }

def withRole (u : User) (role : String) : User := { u with role := role }

def inactive (u : User) : User := { u with isActive := false }

def toValue (u : User) : Value :=
  .ofFields [("id", .text u.id), ("email", .text u.email), ("name", .ofOption .text u.name),
    ("role", .text u.role), ("isActive", .bool u.isActive)]

def read? (d : Document) : Option User := do
  let r ← Record.read? ["id", "email", "name", "role", "isActive"] d
  let id ← r.required "id" Document.text?
  let email ← r.required "email" Document.text?
  let name ← r.nullable "name" Document.text?
  let role ← r.withDefault "role" defaultRole Document.text?
  let isActive ← r.withDefault "isActive" true Document.bool?
  some ⟨id, email, name, role, isActive⟩

end User

/-- The authentication of a request. -/
structure Caller where
  authenticated : Bool
  user : Option User
  deriving DecidableEq, Inhabited

namespace Caller

def anonymous : Caller := ⟨false, none⟩

def ofUser (u : User) : Caller := ⟨true, some u⟩

def toValue (c : Caller) : Value :=
  .ofFields [("authenticated", .bool c.authenticated), ("user", .ofOption User.toValue c.user)]

def read? (d : Document) : Option Caller := do
  let r ← Record.read? ["authenticated", "user"] d
  let authenticated ← r.required "authenticated" Document.bool?
  let user ← r.nullableInList "user" User.read?
  some ⟨authenticated, user⟩

end Caller

/-- What is known of a record: its fields. -/
abbrev Snapshot := Table Value

end RecordGate
