import Formula.Duration
import Formula.Binary64.Numeral
import Formula.Text.Category

/-!
# The text of a duration

A duration is written `[-][d.]hh:mm:ss[.fffffff]`; the fraction counts ticks of 100 nanoseconds.
Reading also takes one-digit fields, no seconds, and a shorter fraction. It first tells the parts of
a text apart, in which the digits may be of any script, and then takes their numbers together, for
which they have to be digits of ASCII.
-/

namespace Formula.Duration

/-- The number of nanoseconds in a tick, the finest step of the text form. -/
def nanosPerTick : Nat := 100

/-- A natural number in decimal, with zeros in front up to `width` digits. -/
def padded (width n : Nat) : List Char :=
  let digits := Nat.toDigits 10 n
  List.replicate (width - digits.length) '0' ++ digits

/-- The text of a duration; the day field and the fraction are left out when they are zero. -/
def toChars (d : Duration) : List Char :=
  let size := d.nanos.natAbs
  let seconds := size / nanosPerSecond
  let days := seconds / 86400
  let ticks := size % nanosPerSecond / nanosPerTick
  (if d.nanos < 0 then ['-'] else [])
    ++ (if 0 < days then Nat.toDigits 10 days ++ ['.'] else [])
    ++ padded 2 (seconds / 3600 % 24) ++ [':'] ++ padded 2 (seconds / 60 % 60) ++ [':']
    ++ padded 2 (seconds % 60)
    ++ (if 0 < ticks then '.' :: padded 7 ticks else [])

/-- The text of a duration. -/
def toText (d : Duration) : String :=
  String.ofList d.toChars

/-- The digits of the seconds and, if there is a fraction, of the fraction. -/
structure SecondsPart where
  whole : List Char
  fraction : Option (List Char)
  deriving DecidableEq, Repr

/-- The parts of a text `[-][D.]h:m[:s[.f]]`, each as its digits. -/
structure Parts where
  negative : Bool
  days : Option (List Char)
  hours : List Char
  minutes : List Char
  seconds : Option SecondsPart
  deriving DecidableEq, Repr

/-- The digits of the seconds, if there are any. -/
def Parts.wholeSeconds? (p : Parts) : Option (List Char) :=
  p.seconds.map (·.whole)

/-- The digits of the fraction, if there is one. -/
def Parts.fraction? (p : Parts) : Option (List Char) :=
  p.seconds.bind (·.fraction)

/-- Whether a character is a decimal digit of some script. -/
def isDecimalDigit (c : Char) : Bool :=
  Text.Category.decimalNumber.contains c.toNat

/-- All digits that come next, at least one and at most `most`, and what follows them. -/
def readRun (most : Nat) (text : List Char) : Option (List Char × List Char) :=
  let digits := text.takeWhile isDecimalDigit
  if digits = [] ∨ most < digits.length then none
  else some (digits, text.dropWhile isDecimalDigit)

/-- A minus at the start of a text: whether there is one, and what follows. -/
def readMinus : List Char → Bool × List Char
  | '-' :: rest => (true, rest)
  | text => (false, text)

/-- The day field, which ends with a point, if there is one, and what follows. -/
def readDays (text : List Char) : Option (List Char) × List Char :=
  match text.takeWhile isDecimalDigit, text.dropWhile isDecimalDigit with
  | digits@(_ :: _), '.' :: rest => (some digits, rest)
  | _, _ => (none, text)

/-- The fraction, if there is one; nothing may follow. -/
def readFraction : List Char → Option (Option (List Char))
  | [] => some none
  | '.' :: rest => do
    let (digits, []) ← readRun 7 rest | none
    return some digits
  | _ => none

/-- The seconds with their fraction, if there are any; nothing may follow. -/
def readSeconds : List Char → Option (Option SecondsPart)
  | [] => some none
  | ':' :: rest => do
    let (whole, rest) ← readRun 2 rest
    let fraction ← readFraction rest
    return some ⟨whole, fraction⟩
  | _ => none

/-- Tells the parts of a text apart. -/
def Parts.read? (text : List Char) : Option Parts := do
  let (negative, rest) := readMinus text
  let (days, rest) := readDays rest
  let (hours, rest) ← readRun 2 rest
  let ':' :: rest := rest | none
  let (minutes, rest) ← readRun 2 rest
  let seconds ← readSeconds rest
  return { negative, days, hours, minutes, seconds }

/-- The number that digits spell, if they are digits of ASCII and it is a signed 64-bit integer. -/
def fieldValue? (digits : List Char) : Option Nat :=
  if digits.all Char.isDigit ∧ Numeral.digitsValue digits < twoPow 63 then
    some (Numeral.digitsValue digits)
  else none

/-- The number of a field that may be missing, which then counts as zero. -/
def optionalValue? (digits : Option (List Char)) : Option Nat :=
  match digits with
  | some digits => fieldValue? digits
  | none => some 0

/-- The digits of a fraction with zeros behind them up to seven, as many as the digits of ticks. -/
def tickDigits (digits : List Char) : List Char :=
  digits ++ List.replicate (7 - digits.length) '0'

/-- A duration with a number of nanoseconds more. -/
def addNanos? (d : Duration) (nanos : Nat) : Option Duration := do
  d.add? (← ofNanos? nanos)

/-- The duration of some fields, added up from the days on; every sum has to be in range. -/
def ofFields? (days hours minutes seconds ticks : Nat) : Option Duration := do
  let sum ← ofNanos? (days * 86400 * nanosPerSecond : Nat)
  let sum ← sum.addNanos? (hours * 3600 * nanosPerSecond)
  let sum ← sum.addNanos? (minutes * 60 * nanosPerSecond)
  let sum ← sum.addNanos? (seconds * nanosPerSecond)
  sum.addNanos? (ticks * nanosPerTick)

/-- The duration of some parts; hours must be below 24, minutes and seconds below 60. -/
def Parts.toDuration? (p : Parts) : Option Duration := do
  let days ← optionalValue? p.days
  let hours ← fieldValue? p.hours
  let minutes ← fieldValue? p.minutes
  let seconds ← optionalValue? p.wholeSeconds?
  if 23 < hours ∨ 59 < minutes ∨ 59 < seconds then none
  else
    let ticks ← optionalValue? (p.fraction?.map tickDigits)
    let magnitude ← ofFields? days hours minutes seconds ticks
    return if p.negative then magnitude.neg else magnitude

/-- Reads a duration. -/
def ofChars? (text : List Char) : Option Duration :=
  (Parts.read? text).bind Parts.toDuration?

/-- Reads a text as a duration. -/
def ofText? (text : String) : Option Duration :=
  ofChars? text.toList

end Formula.Duration
