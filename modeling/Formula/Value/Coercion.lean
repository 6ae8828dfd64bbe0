import Formula.Value.Text

/-!
# Coercions

Every value has a view as a number, an integer and a boolean; some have one as a date-time or as a
duration. The operators are built on these views.
-/

namespace Formula

/-- Reads a text as a double, without regard to blanks around it. -/
def readNumber? (text : String) : Option Binary64 :=
  (Numeral.read? (Text.trim text.toList)).map Numeral.toBinary64

namespace Value

variable {H : Type}

/-- The numeric view: milliseconds for times, and not-a-number where there is none. -/
def toNumber : Value H → Binary64
  | .null => 0
  | .number n => n
  | .boolean b => if b then 1 else 0
  | .string s => (readNumber? s).getD .nan
  | .dateTime t => t.epochMilliseconds
  | .duration d => d.totalMilliseconds
  | .sequence _ | .record .. | .host .. => .nan

/-- The numeric view as a signed 64-bit integer, saturating. -/
def toInt64 (v : Value H) : Int :=
  v.toNumber.toInt64

/-- The numeric view as a signed 32-bit integer, saturating. -/
def toInt32 (v : Value H) : Int :=
  v.toNumber.toInt32

/-- Truthiness: null, false, zero and the empty string are false. -/
def toBoolean : Value H → Bool
  | .null => false
  | .boolean b => b
  | .number n => !n.isZero
  | .string s => !s.isEmpty
  | _ => true

/-- A finite number of milliseconds in whole microseconds, toward zero and saturating. -/
def wholeMicroseconds (n : Binary64) : Int :=
  (n * 1000).toInt64

/-- The date-time view; a finite number counts milliseconds. -/
def toDateTime? : Value H → Option DateTime
  | .dateTime t => some t
  | .string s => DateTime.ofText? (Text.trim s.toList)
  | .number n => if n.isFinite then DateTime.ofMicroseconds? (wholeMicroseconds n) else none
  | _ => none

/-- The duration view; a finite number counts milliseconds. -/
def toDuration? : Value H → Option Duration
  | .duration d => some d
  | .string s => Duration.ofChars? (Text.trim s.toList)
  | .number n => if n.isFinite then Duration.ofMicroseconds? (wholeMicroseconds n) else none
  | _ => none

end Value

end Formula
