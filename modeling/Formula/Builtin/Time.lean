import Formula.Value.Operation

/-!
# Built-in members of date-times and durations

The parts of a date-time are those of its universal time. The parts of a duration are cut toward
zero and have its sign.
-/

namespace Formula.Builtin

variable {H : Type} [HostObject H]

/-- The member of a date-time with a name. -/
def dateTimeMember? (t : DateTime) : String → Option (Value H)
  | "Year" => some (.ofInt t.date.year)
  | "Month" => some (.ofNat t.date.month)
  | "Day" => some (.ofNat t.date.day)
  | "Hour" => some (.ofNat t.hour)
  | "Minute" => some (.ofNat t.minute)
  | "Second" => some (.ofNat t.second)
  | "Millisecond" => some (.ofNat t.millisecond)
  | "DayOfWeek" => some (.ofNat t.date.weekday)
  | "DayOfYear" => some (.ofNat t.date.dayOfYear)
  | _ => none

/-- A date-time moved by an amount of a unit that is given in milliseconds, cut to the
microsecond. -/
def addScaled (t : DateTime) (amount unit : Binary64) : Except EvalError (Value H) :=
  let micros := amount * unit * 1000
  if micros.isFinite && micros.abs.order (.ofInt 9223372036854775807) == some .lt then
    match Duration.ofMicroseconds? micros.toInt64 with
    | some d => Value.shiftDateTime t d
    | none => .error (.overflow .add)
  else .error (.overflow .add)

/-- A date-time moved by a duration or by a value that has a duration view. -/
def addDuration (t : DateTime) (amount : Value H) : Except EvalError (Value H) :=
  match amount.toDuration? with
  | some d => Value.shiftDateTime t d
  | none => .error (.invalidArgument (.durationExpected amount.typeName))

/-- The method of a date-time with a name and arguments. -/
def dateTimeMethod? (t : DateTime) : String → List (Value H) → Option (Except EvalError (Value H))
  | "AddDays", [amount] => some (addScaled t amount.toNumber 86400000)
  | "AddHours", [amount] => some (addScaled t amount.toNumber 3600000)
  | "AddMinutes", [amount] => some (addScaled t amount.toNumber 60000)
  | "AddSeconds", [amount] => some (addScaled t amount.toNumber 1000)
  | "AddMilliseconds", [amount] => some (addScaled t amount.toNumber 1)
  | "Add", [amount] => some (addDuration t amount)
  | _, _ => none

/-- The member of a duration with a name. -/
def durationMember? (d : Duration) : String → Option (Value H)
  | "Days" => some (.ofInt (d.wholeSeconds.tdiv 86400))
  | "Hours" => some (.ofInt ((d.wholeSeconds.tdiv 3600).tmod 24))
  | "Minutes" => some (.ofInt ((d.wholeSeconds.tdiv 60).tmod 60))
  | "Seconds" => some (.ofInt (d.wholeSeconds.tmod 60))
  | "Milliseconds" => some (.ofInt (d.wholeMilliseconds.tmod 1000))
  | "TotalDays" => some (.number (d.totalMilliseconds / 86400000))
  | "TotalHours" => some (.number (d.totalMilliseconds / 3600000))
  | "TotalMinutes" => some (.number (d.totalMilliseconds / 60000))
  | "TotalSeconds" => some (.number (d.totalMilliseconds / 1000))
  | "TotalMilliseconds" => some (.number d.totalMilliseconds)
  | _ => none

/-- The method of a duration with a name and arguments. -/
def durationMethod? (d : Duration) : String → List (Value H) → Option (Except EvalError (Value H))
  | "Negate", [] => some (.ok (.duration d.neg))
  | "Duration", [] => some (.ok (.duration d.abs))
  | _, _ => none

end Formula.Builtin
