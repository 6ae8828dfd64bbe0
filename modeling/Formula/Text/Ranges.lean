/-!
# Sets of code points

Sets of code points as lists of ranges, and their written form in hexadecimal, in which the tables
of the Unicode properties are given.
-/

namespace Formula.Text

/-- A set of code points: ranges with both ends. -/
abbrev Ranges : Type := List (Nat × Nat)

/-- The number that hexadecimal digits spell. -/
def hexNumber (digits : List Char) : Nat :=
  digits.foldl (fun n c =>
    n * 16 + if c.isDigit then c.toNat - '0'.toNat else c.toNat - 'A'.toNat + 10) 0

/-- The parts of a text between the occurrences of a character. -/
def parts (separator : Char) : List Char → List (List Char)
  | [] => [[]]
  | c :: rest =>
    let pieces := parts separator rest
    if c = separator then [] :: pieces
    else
      match pieces with
      | piece :: pieces => (c :: piece) :: pieces
      | [] => [[c]]

/-- The words of lines, which blanks separate. -/
def wordsOfLines (lines : List String) : List (List Char) :=
  lines.flatMap fun line => parts ' ' line.toList

/-- The lists of hexadecimal numbers of lines; blanks separate the lists and commas the numbers. -/
def hexLists (lines : List String) : List (List Nat) :=
  (wordsOfLines lines).map fun word => (parts ',' word).map hexNumber

namespace Ranges

/-- Whether a code point lies in one of the ranges. -/
def contains (ranges : Ranges) (code : Nat) : Bool :=
  ranges.any fun (low, high) => low ≤ code && code ≤ high

/-- The ranges of lines such as `41-5A 5F`. -/
def ofLines (lines : List String) : Ranges :=
  (wordsOfLines lines).map fun word =>
    match (parts '-' word).map hexNumber with
    | [low, high] => (low, high)
    | code :: _ => (code, code)
    | [] => (0, 0)

end Ranges

/-- A run of a case mapping: the code points from `first` to `last` in steps of `step` map to the
one `shift` further on. -/
structure CaseRun where
  first : Nat
  last : Nat
  step : Nat
  shift : Int

/-- The runs of lines such as `61,7A,1,-20 FF,FF,1,79`. -/
def CaseRun.ofLines (lines : List String) : List CaseRun :=
  (wordsOfLines lines).map fun word =>
    match parts ',' word with
    | [first, last, step, '-' :: shift] =>
      ⟨hexNumber first, hexNumber last, hexNumber step, -hexNumber shift⟩
    | [first, last, step, shift] =>
      ⟨hexNumber first, hexNumber last, hexNumber step, hexNumber shift⟩
    | _ => ⟨0, 0, 1, 0⟩

end Formula.Text
