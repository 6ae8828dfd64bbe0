import Formula.Text.CaseTable

/-!
# Letter case

Full case mappings, which may change the length of a text. A capital sigma becomes a final sigma at
the end of a word: after a character that has a case and not before one.
-/

namespace Formula.Text

/-- The code point that a code point maps to by some runs, itself if it is in none. -/
def mapByRuns (runs : List CaseRun) (code : Nat) : Nat :=
  match runs.find? fun run =>
      run.first ≤ code && code ≤ run.last && (code - run.first) % run.step = 0 with
  | some run => ((code : Int) + run.shift).toNat
  | none => code

/-- The code points that map to a code point by some runs. -/
def preimages (runs : List CaseRun) (code : Nat) : List Nat :=
  runs.filterMap fun run =>
    let source := ((code : Int) - run.shift).toNat
    if run.first ≤ source && source ≤ run.last && (source - run.first) % run.step = 0 then
      some source
    else none

/-- The characters that a character maps to by expansions, or else by runs. -/
def mapCase (expansions : List (List Nat)) (runs : List CaseRun) (c : Char) : List Char :=
  match expansions.find? fun codes => codes.head? = some c.toNat with
  | some codes => codes.tail.map Char.ofNat
  | none => [.ofNat (mapByRuns runs c.toNat)]

/-- A text in upper case. -/
def toUpper (text : List Char) : List Char :=
  text.flatMap (mapCase upperExpansions upperRuns)

/-- Whether the first character that is not ignored has a case. -/
def startsCased (text : List Char) : Bool :=
  match text.dropWhile fun c => caseIgnorable.contains c.toNat with
  | [] => false
  | c :: _ => cased.contains c.toNat

/-- A text in lower case, given what stands before it in reverse. -/
def toLowerAfter (before : List Char) : List Char → List Char
  | [] => []
  | c :: rest =>
    let lower :=
      if c = 'Σ' then [if startsCased before && !startsCased rest then 'ς' else 'σ']
      else mapCase lowerExpansions lowerRuns c
    lower ++ toLowerAfter (c :: before) rest

/-- A text in lower case. -/
def toLower (text : List Char) : List Char :=
  toLowerAfter [] text

end Formula.Text
