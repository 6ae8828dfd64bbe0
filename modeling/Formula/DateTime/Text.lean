import Formula.DateTime
import Formula.Duration.Text
import Formula.Text.Blank

/-!
# The text of a date-time

A date-time is written as `YYYY-MM-DDThh:mm:ssZ` with a fraction of three, six or nine digits if
there is one. Reading takes the same form with any fraction and any offset from universal time, and
dates alone, which stand for midnight.
-/

namespace Formula.DateTime

/-- A year: four digits, and beyond those a sign and at least four digits. -/
def yearChars (year : Int) : List Char :=
  let digits := Duration.padded 4 year.natAbs
  if year < 0 then '-' :: digits else if 9999 < year then '+' :: digits else digits

/-- The fraction of a second in the fewest of no, three, six or nine digits. -/
def fractionChars (nanos : Nat) : List Char :=
  if nanos = 0 then []
  else if nanos % 1000000 = 0 then '.' :: Duration.padded 3 (nanos / 1000000)
  else if nanos % 1000 = 0 then '.' :: Duration.padded 6 (nanos / 1000)
  else '.' :: Duration.padded 9 nanos

/-- The text of a date-time in universal time; a leap second is second sixty. -/
def toChars (t : DateTime) : List Char :=
  let date := t.date
  let second := if t.isLeapSecond then t.second + 1 else t.second
  yearChars date.year ++ ['-'] ++ Duration.padded 2 date.month ++ ['-']
    ++ Duration.padded 2 date.day ++ ['T'] ++ Duration.padded 2 t.hour ++ [':']
    ++ Duration.padded 2 t.minute ++ [':'] ++ Duration.padded 2 second
    ++ fractionChars (t.nanos % nanosPerSecond) ++ ['Z']

/-- The text of a date-time. -/
def toText (t : DateTime) : String :=
  String.ofList t.toChars

/-- Exactly `width` digits at the start of a text. -/
def readFixed (width : Nat) (text : List Char) : Option (Nat × List Char) :=
  let digits := text.take width
  if digits.length = width ∧ digits.all Char.isDigit then
    some (Numeral.digitsValue digits, text.drop width)
  else none

/-- A given character at the start of a text. -/
def readChar (expected : Char) : List Char → Option (List Char)
  | c :: rest => if c = expected then some rest else none
  | [] => none

/-- The nanoseconds of an optional fraction; digits after the ninth are dropped. -/
def readFraction : List Char → Option (Nat × List Char)
  | '.' :: rest =>
    match Numeral.readDigits rest with
    | ([], _) => none
    | (digits, rest) =>
      let kept := digits.take 9
      some (Numeral.digitsValue kept * tenPow (9 - kept.length), rest)
  | text => some (0, text)

/-- Hours and minutes of an offset in seconds; the minutes may be missing after the colon. -/
def readOffsetSize (text : List Char) : Option Nat := do
  let (hours, rest) ← readFixed 2 text
  let rest ← readChar ':' rest
  match rest with
  | [] => if hours < 24 then some (hours * 3600) else none
  | _ =>
    let (minutes, rest) ← readFixed 2 rest
    if rest = [] ∧ minutes < 60 ∧ hours < 24 then some (hours * 3600 + minutes * 60) else none

/-- The offset from universal time in seconds, which ends the text. -/
def readOffset : List Char → Option Int
  | ['Z'] | ['z'] => some 0
  | '+' :: rest => (readOffsetSize rest).map fun size => (size : Int)
  | '-' :: rest | '\u2212' :: rest => (readOffsetSize rest).map fun size => -(size : Int)
  | _ => none

/-- Reads a date, a time of day and an offset; second sixty is a leap second at any minute. -/
def readInstant (text : List Char) : Option DateTime := do
  let (year, rest) ← readFixed 4 text
  let rest ← readChar '-' rest
  let (month, rest) ← readFixed 2 rest
  let rest ← readChar '-' rest
  let (day, rest) ← readFixed 2 rest
  let separator :: rest := rest | none
  let (hour, rest) ← readFixed 2 rest
  let rest ← readChar ':' rest
  let (minute, rest) ← readFixed 2 rest
  let rest ← readChar ':' rest
  let (second, rest) ← readFixed 2 rest
  let (nanos, rest) ← readFraction rest
  let offset ← readOffset rest
  let date : Date := ⟨year, month, day⟩
  if (separator = 'T' ∨ separator = 't' ∨ separator = ' ') ∧ date.isValid ∧ hour < 24
      ∧ minute < 60 ∧ second ≤ 60 then
    let minutes : Int := date.dayNumber * 1440 + hour * 60 + minute
    if second = 60 then ofParts? (minutes * 60 + 59 - offset) (nanos + nanosPerSecond)
    else ofParts? (minutes * 60 + second - offset) nanos
  else none

/-- A year with an optional sign: any number of digits after a sign, at most four without. -/
def readYear (text : List Char) : Option (Int × List Char) :=
  match text with
  | '-' :: rest => signed (-1) rest
  | '+' :: rest => signed 1 rest
  | _ =>
    let digits := (text.take 4).takeWhile Char.isDigit
    if digits = [] then none
    else some (Numeral.digitsValue digits, text.drop digits.length)
where
  /-- The digits after a sign. -/
  signed (sign : Int) (text : List Char) : Option (Int × List Char) :=
    match Numeral.readDigits text with
    | ([], _) => none
    | (digits, rest) => some (sign * Numeral.digitsValue digits, rest)

/-- One or two digits after blanks. -/
def readShort (text : List Char) : Option (Nat × List Char) :=
  let text := Text.trimStart text
  let digits := (text.take 2).takeWhile Char.isDigit
  if digits = [] then none
  else some (Numeral.digitsValue digits, text.drop digits.length)

/-- Reads a date alone as its midnight. -/
def readDay (text : List Char) : Option DateTime := do
  let (year, rest) ← readYear (Text.trimStart text)
  let rest ← readChar '-' rest
  let (month, rest) ← readShort rest
  let rest ← readChar '-' rest
  let (day, rest) ← readShort rest
  let date : Date := ⟨year, month, day⟩
  if rest = [] ∧ date.isValid then ofParts? (date.dayNumber * 86400) 0 else none

/-- Reads a text as a date-time. -/
def ofText? (text : List Char) : Option DateTime :=
  readInstant text <|> readDay text

end Formula.DateTime
