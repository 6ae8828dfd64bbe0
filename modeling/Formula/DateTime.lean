import Formula.Calendar
import Formula.Duration

/-!
# Date-times

A date-time is a second of universal time and nanoseconds within it. A leap second is written as the
second before it with a thousand million nanoseconds more. Arithmetic has no result outside the
range of years.
-/

namespace Formula

namespace DateTime

/-- The first second of year -262143. -/
def earliest : Int := -8334601228800

/-- The last second of year 262142. -/
def latest : Int := 8210266876799

end DateTime

/-- An instant: seconds from 1970-01-01T00:00:00Z and nanoseconds, of which there are a thousand
million or more within a leap second only. A leap second ends a minute; one elsewhere, which no text
and no arithmetic gives but a host can build by hand, is left out. -/
structure DateTime where
  seconds : Int
  nanos : Nat
  inRange : DateTime.earliest ≤ seconds ∧ seconds ≤ DateTime.latest
  nanos_lt : nanos < 2000000000
  leap_at_minute_end : 1000000000 ≤ nanos → seconds % 60 = 59
  deriving DecidableEq

namespace DateTime

/-- Seconds and nanoseconds as a date-time, if there is such an instant. -/
def ofParts? (seconds : Int) (nanos : Nat) : Option DateTime :=
  if h : (earliest ≤ seconds ∧ seconds ≤ latest) ∧ nanos < 2000000000
      ∧ (1000000000 ≤ nanos → seconds % 60 = 59) then
    some ⟨seconds, nanos, h.1, h.2.1, h.2.2⟩
  else none

/-- Nanoseconds from 1970-01-01T00:00:00Z as a date-time that is no leap second. -/
def ofNanos? (nanos : Int) : Option DateTime :=
  ofParts? (nanos / nanosPerSecond) (nanos % nanosPerSecond).toNat

/-- Microseconds from 1970-01-01T00:00:00Z as a date-time. -/
def ofMicroseconds? (micros : Int) : Option DateTime :=
  ofNanos? (micros * 1000)

/-- Whether this is within a leap second. -/
def isLeapSecond (t : DateTime) : Bool :=
  nanosPerSecond ≤ t.nanos

/-- The stored seconds and nanoseconds as one number of nanoseconds. -/
def storedNanos (t : DateTime) : Int :=
  t.seconds * nanosPerSecond + t.nanos

/-- A date-time moved by a duration. A leap second is kept while the result is within it; it is left
forward as if it were the second before, and backward as if it were the second after. -/
def add? (t : DateTime) (d : Duration) : Option DateTime :=
  if t.isLeapSecond then
    let seconds := d.wholeSeconds
    let rest := d.subsecondNanos
    if 0 < seconds ∨ (0 < rest ∧ 2 * nanosPerSecond - rest ≤ t.nanos) then
      ofNanos? (t.storedNanos - nanosPerSecond + d.nanos)
    else if seconds < 0 then ofNanos? (t.storedNanos + d.nanos)
    else ofParts? t.seconds (t.nanos + rest).toNat
  else ofNanos? (t.storedNanos + d.nanos)

/-- A date-time moved back by a duration. -/
def sub? (t : DateTime) (d : Duration) : Option DateTime :=
  t.add? d.neg

/-- The second within the day. -/
def secondOfDay (t : DateTime) : Nat :=
  (t.seconds % 86400).toNat

/-- The seconds by which a difference counts leap seconds that the stored seconds do not: the
earlier time of day of the two may lie within one. -/
def leapCorrection (a b : DateTime) : Int :=
  if b.secondOfDay < a.secondOfDay ∧ b.isLeapSecond then 1
  else if a.secondOfDay < b.secondOfDay ∧ a.isLeapSecond then -1
  else 0

/-- The duration from `b` to `a`. -/
def since (a b : DateTime) : Duration where
  nanos := a.storedNanos - b.storedNanos + leapCorrection a b * nanosPerSecond
  inRange := by
    have ha := a.inRange
    have hb := b.inRange
    have haNanos := a.nanos_lt
    have hbNanos := b.nanos_lt
    have hcorrection : -1 ≤ leapCorrection a b ∧ leapCorrection a b ≤ 1 := by
      unfold leapCorrection
      split
      · decide
      · split <;> decide
    simp only [storedNanos, nanosPerSecond, Duration.longest, earliest, latest] at *
    omega

/-- The whole microseconds from 1970-01-01T00:00:00Z; a leap second counts into the second after. -/
def epochMicroseconds (t : DateTime) : Int :=
  t.seconds * 1000000 + (t.nanos / 1000 : Nat)

/-- The milliseconds from 1970-01-01T00:00:00Z as a double. -/
def epochMilliseconds (t : DateTime) : Binary64 :=
  .ofInt t.epochMicroseconds / 1000

/-- The day. -/
def date (t : DateTime) : Date :=
  .ofDayNumber (t.seconds / 86400)

/-- The hour of the day. -/
def hour (t : DateTime) : Nat := t.secondOfDay / 3600

/-- The minute of the hour. -/
def minute (t : DateTime) : Nat := t.secondOfDay / 60 % 60

/-- The second of the minute; a leap second counts as the second before it. -/
def second (t : DateTime) : Nat := t.secondOfDay % 60

/-- The millisecond of the second. -/
def millisecond (t : DateTime) : Nat := t.nanos / 1000000 % 1000

end DateTime

end Formula
