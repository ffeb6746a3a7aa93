import RecordGate.Text.Alphanumeric.Table
import RecordGate.Text.Blank
import RecordGate.Text.CodePoints

/-!
# Letters and digits

The letters and digits of all scripts.
-/

namespace RecordGate.Text

/-- A letter or a digit: within ASCII one of its own, beyond it one that the Unicode standard says is. -/
def isAlphanumeric (c : Char) : Bool :=
  isLetter c || isDigit c || inRanges alphanumericRanges c

end RecordGate.Text
