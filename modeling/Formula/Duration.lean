import Formula.Binary64.Arithmetic

/-!
# Durations

A duration is a signed whole number of nanoseconds, at most `2 ^ 63 - 1` milliseconds long.
Arithmetic is exact and has no result outside that range.
-/

namespace Formula

/-- The number of nanoseconds in a second. -/
def nanosPerSecond : Nat := 1000000000

/-- The longest duration in nanoseconds, `2 ^ 63 - 1` milliseconds. -/
def Duration.longest : Nat := 9223372036854775807 * 1000000

/-- A signed time span. -/
structure Duration where
  nanos : Int
  inRange : nanos.natAbs ≤ Duration.longest
  deriving DecidableEq

namespace Duration

/-- A number of nanoseconds as a duration, if it is not too long. -/
def ofNanos? (nanos : Int) : Option Duration :=
  if inRange : nanos.natAbs ≤ longest then some ⟨nanos, inRange⟩ else none

/-- The empty duration. -/
def zero : Duration := ⟨0, by decide⟩

instance : Inhabited Duration := ⟨zero⟩

/-- The duration with the opposite sign. -/
def neg (d : Duration) : Duration :=
  ⟨-d.nanos, by rw [Int.natAbs_neg]; exact d.inRange⟩

/-- The duration without its sign. -/
def abs (d : Duration) : Duration :=
  ⟨d.nanos.natAbs, by rw [Int.natAbs_natCast]; exact d.inRange⟩

/-- The sum of two durations. -/
def add? (d e : Duration) : Option Duration :=
  ofNanos? (d.nanos + e.nanos)

/-- The difference of two durations. -/
def sub? (d e : Duration) : Option Duration :=
  ofNanos? (d.nanos - e.nanos)

/-- The whole seconds, toward zero. -/
def wholeSeconds (d : Duration) : Int :=
  d.nanos.tdiv nanosPerSecond

/-- The nanoseconds beyond the whole seconds, with the sign of the duration. -/
def subsecondNanos (d : Duration) : Int :=
  d.nanos.tmod nanosPerSecond

/-- The whole milliseconds, toward zero. -/
def wholeMilliseconds (d : Duration) : Int :=
  d.nanos.tdiv 1000000

/-- The length in milliseconds as a double. Seconds and the rest are rounded apart. -/
def totalMilliseconds (d : Duration) : Binary64 :=
  .ofInt d.wholeSeconds * 1000 + .ofInt d.subsecondNanos / 1000000

/-- A whole number of microseconds below `2 ^ 63` in size as a duration. -/
def ofMicroseconds? (micros : Int) : Option Duration :=
  ofNanos? (micros * 1000)

end Duration

end Formula
