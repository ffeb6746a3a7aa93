import RecordGate.Expression.Basic
import RecordGate.Document.Record

/-!
# Verdicts as documents

A verdict is written with the fields it has.  Reading takes a value of `null` for a missing one.
-/

namespace RecordGate.Verdict

def toValue (v : Verdict) : Value :=
  .ofFields (("success", .bool v.success) :: (Entries.optional "value" v.value
    ++ Entries.optional "error" (v.error.map .text)))

def read? (d : Document) : Option Verdict := do
  let r ← Record.read? ["success", "value", "error"] d
  let success ← r.required "success" Document.bool?
  let value ← r.nullable "value" Document.value?
  let error ← r.nullable "error" Document.text?
  some ⟨success, value, error⟩

end RecordGate.Verdict
