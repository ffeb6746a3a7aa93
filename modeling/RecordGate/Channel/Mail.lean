import RecordGate.Document.Record

/-!
# Mail

An outgoing mail lists its recipients.
-/

namespace RecordGate

structure OutgoingMail where
  recipients : List String
  subject : String
  body : String
  deriving DecidableEq, Inhabited

namespace OutgoingMail

def toValue (m : OutgoingMail) : Value :=
  .ofFields [("to", .list (m.recipients.map .text)), ("subject", .text m.subject), ("body", .text m.body)]

def read? (d : Document) : Option OutgoingMail := do
  let r ← Record.read? ["to", "subject", "body"] d
  let recipients ← r.required "to" (Document.list? Document.text?)
  let subject ← r.required "subject" Document.text?
  let body ← r.required "body" Document.text?
  some ⟨recipients, subject, body⟩

end OutgoingMail

end RecordGate
