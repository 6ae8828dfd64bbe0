import Formula.Text.Blank
import Formula.Text.Case
import Formula.Text.Category
import Formula.Text.Script

/-!
# Character sets of patterns

A set is built from ranges by the operations that a bracketed class can spell. `folded` closes a set
under letter case, by the equivalence that simple case folding makes.
-/

namespace Formula.Regex

/-- A set of characters. -/
inductive CharSet where
  | ranges (items : Text.Ranges)
  | union (a b : CharSet)
  | intersection (a b : CharSet)
  | difference (a b : CharSet)
  | symmetricDifference (a b : CharSet)
  | complement (a : CharSet)
  | folded (a : CharSet)
  | foldedAscii (a : CharSet)

namespace CharSet

/-- The equivalences of letter case that no case mapping shows. -/
def foldExceptions : List (Nat × Nat) :=
  [(0x1FD3, 0x390), (0x1FE3, 0x3B0), (0xFB05, 0xFB06)]

/-- The representative of the characters that differ in letter case only; the dotless i stands
alone. -/
def foldCode (code : Nat) : Nat :=
  match foldExceptions.find? fun pair => pair.1 = code with
  | some (_, target) => target
  | none =>
    if code = 0x131 then code
    else Text.mapByRuns Text.lowerRuns (Text.mapByRuns Text.upperRuns code)

/-- The characters that differ from a character in letter case only, and itself. -/
def caseVariants (code : Nat) : List Nat :=
  let lower := foldCode code
  let upper := Text.mapByRuns Text.upperRuns lower
  let exceptions := foldExceptions.filterMap fun pair =>
    if pair.2 = lower then some pair.1 else none
  let candidates := code :: lower :: upper :: Text.preimages Text.lowerRuns lower
    ++ Text.preimages Text.upperRuns upper ++ exceptions
  candidates.filter fun other => foldCode other = lower

/-- The letters of ASCII that differ from a character in letter case only, and itself. -/
def asciiVariants (code : Nat) : List Nat :=
  if 0x41 ≤ code ∧ code ≤ 0x5A then [code, code + 0x20]
  else if 0x61 ≤ code ∧ code ≤ 0x7A then [code, code - 0x20]
  else [code]

/-- Whether a code point is in a set. -/
def contains : CharSet → Nat → Bool
  | .ranges items, code => items.contains code
  | .union a b, code => a.contains code || b.contains code
  | .intersection a b, code => a.contains code && b.contains code
  | .difference a b, code => a.contains code && !b.contains code
  | .symmetricDifference a b, code => a.contains code != b.contains code
  | .complement a, code => !a.contains code
  | .folded a, code => (caseVariants code).any fun other => a.contains other
  | .foldedAscii a, code => (asciiVariants code).any fun other => a.contains other

/-- The set of one character. -/
def single (c : Char) : CharSet :=
  .ranges [(c.toNat, c.toNat)]

/-- The empty set. -/
def empty : CharSet :=
  .ranges []

/-- The set of all characters. -/
def all : CharSet :=
  .ranges [(0, 0x10FFFF)]

/-- The set of the characters of ASCII. -/
def ascii : CharSet :=
  .ranges [(0, 0x7F)]

/-- The complement of a set, if asked for. -/
def complementIf (negated : Bool) (set : CharSet) : CharSet :=
  if negated then .complement set else set

/-- The letters. -/
def letters : Text.Ranges :=
  Text.Category.uppercaseLetter ++ Text.Category.lowercaseLetter
    ++ Text.Category.titlecaseLetter ++ Text.Category.modifierLetter ++ Text.Category.otherLetter

/-- The combining marks. -/
def marks : Text.Ranges :=
  Text.Category.nonspacingMark ++ Text.Category.spacingMark ++ Text.Category.enclosingMark

/-- The numeric characters. -/
def numerals : Text.Ranges :=
  Text.Category.decimalNumber ++ Text.Category.letterNumber ++ Text.Category.otherNumber

/-- The punctuation. -/
def punctuation : Text.Ranges :=
  Text.Category.connectorPunctuation ++ Text.Category.dashPunctuation
    ++ Text.Category.openPunctuation ++ Text.Category.closePunctuation
    ++ Text.Category.initialPunctuation ++ Text.Category.finalPunctuation
    ++ Text.Category.otherPunctuation

/-- The symbols. -/
def symbols : Text.Ranges :=
  Text.Category.mathSymbol ++ Text.Category.currencySymbol ++ Text.Category.modifierSymbol
    ++ Text.Category.otherSymbol

/-- The separators. -/
def separators : Text.Ranges :=
  Text.Category.spaceSeparator ++ Text.Category.lineSeparator ++ Text.Category.paragraphSeparator

/-- The assigned characters. -/
def assigned : Text.Ranges :=
  letters ++ marks ++ numerals ++ punctuation ++ symbols ++ separators ++ Text.Category.control
    ++ Text.Category.format ++ Text.Category.privateUse

/-- The characters of words: letters and what else is alphabetic, marks, decimal digits, connectors
and the two joiners. -/
def word : Text.Ranges :=
  Text.alphabetic ++ marks ++ Text.Category.decimalNumber ++ Text.Category.connectorPunctuation
    ++ [(0x200C, 0x200D)]

/-- The characters of words within ASCII. -/
def asciiWord : Text.Ranges :=
  [(0x30, 0x39), (0x41, 0x5A), (0x5F, 0x5F), (0x61, 0x7A)]

/-- The set of a general category, whose name is in lower case and without separators. -/
def category? : String → Option CharSet
  | "lu" | "uppercaseletter" => some (.ranges Text.Category.uppercaseLetter)
  | "ll" | "lowercaseletter" => some (.ranges Text.Category.lowercaseLetter)
  | "lt" | "titlecaseletter" => some (.ranges Text.Category.titlecaseLetter)
  | "lm" | "modifierletter" => some (.ranges Text.Category.modifierLetter)
  | "lo" | "otherletter" => some (.ranges Text.Category.otherLetter)
  | "lc" | "casedletter" =>
    some (.ranges (Text.Category.uppercaseLetter ++ Text.Category.lowercaseLetter
      ++ Text.Category.titlecaseLetter))
  | "l" | "letter" => some (.ranges letters)
  | "mn" | "nonspacingmark" => some (.ranges Text.Category.nonspacingMark)
  | "mc" | "spacingmark" => some (.ranges Text.Category.spacingMark)
  | "me" | "enclosingmark" => some (.ranges Text.Category.enclosingMark)
  | "m" | "mark" | "combiningmark" => some (.ranges marks)
  | "nd" | "decimalnumber" | "digit" => some (.ranges Text.Category.decimalNumber)
  | "nl" | "letternumber" => some (.ranges Text.Category.letterNumber)
  | "no" | "othernumber" => some (.ranges Text.Category.otherNumber)
  | "n" | "number" => some (.ranges numerals)
  | "pc" | "connectorpunctuation" => some (.ranges Text.Category.connectorPunctuation)
  | "pd" | "dashpunctuation" => some (.ranges Text.Category.dashPunctuation)
  | "ps" | "openpunctuation" => some (.ranges Text.Category.openPunctuation)
  | "pe" | "closepunctuation" => some (.ranges Text.Category.closePunctuation)
  | "pi" | "initialpunctuation" => some (.ranges Text.Category.initialPunctuation)
  | "pf" | "finalpunctuation" => some (.ranges Text.Category.finalPunctuation)
  | "po" | "otherpunctuation" => some (.ranges Text.Category.otherPunctuation)
  | "p" | "punctuation" | "punct" => some (.ranges punctuation)
  | "sm" | "mathsymbol" => some (.ranges Text.Category.mathSymbol)
  | "sc" | "currencysymbol" => some (.ranges Text.Category.currencySymbol)
  | "sk" | "modifiersymbol" => some (.ranges Text.Category.modifierSymbol)
  | "so" | "othersymbol" => some (.ranges Text.Category.otherSymbol)
  | "s" | "symbol" => some (.ranges symbols)
  | "zs" | "spaceseparator" => some (.ranges Text.Category.spaceSeparator)
  | "zl" | "lineseparator" => some (.ranges Text.Category.lineSeparator)
  | "zp" | "paragraphseparator" => some (.ranges Text.Category.paragraphSeparator)
  | "z" | "separator" => some (.ranges separators)
  | "cc" | "control" | "cntrl" => some (.ranges Text.Category.control)
  | "cf" | "format" => some (.ranges Text.Category.format)
  | "co" | "privateuse" => some (.ranges Text.Category.privateUse)
  | "cs" | "surrogate" => some empty
  | "cn" | "unassigned" => some (.complement (.ranges assigned))
  | "c" | "other" =>
    some (.union (.ranges (Text.Category.control ++ Text.Category.format
      ++ Text.Category.privateUse)) (.complement (.ranges assigned)))
  | "any" => some all
  | "ascii" => some ascii
  | "assigned" => some (.ranges assigned)
  | _ => none

/-- The set of a property that a character has or lacks. -/
def property? : String → Option CharSet
  | "alphabetic" | "alpha" => some (.ranges Text.alphabetic)
  | "lowercase" | "lower" => some (.ranges Text.lowercase)
  | "uppercase" | "upper" => some (.ranges Text.uppercase)
  | "cased" => some (.ranges Text.cased)
  | "caseignorable" | "ci" => some (.ranges Text.caseIgnorable)
  | "whitespace" | "wspace" | "space" => some (.ranges Text.blankRanges)
  | _ => none

/-- A name of a property without case, blanks, dashes, underscores and a leading `is`. -/
def plainName (name : List Char) : String :=
  let kept := (name.filter fun c => c ≠ ' ' && c ≠ '-' && c ≠ '_').map Char.toLower
  String.ofList <| match kept with
    | 'i' :: 's' :: rest => if rest = ['c'] then kept else rest
    | _ => kept

/-- The set of a script. -/
def script? (name : String) : Option CharSet :=
  (Text.script? name).map .ranges

/-- The set that a name alone stands for: a property, a category or a script. -/
def named? (name : List Char) : Option CharSet :=
  let name := plainName name
  property? name <|> category? name <|> script? name

/-- The set that a property with a value stands for. -/
def valued? (property value : List Char) : Option CharSet :=
  match plainName property with
  | "gc" | "generalcategory" => category? (plainName value)
  | "sc" | "script" | "scx" | "scriptextensions" => script? (plainName value)
  | _ => none

/-- The set of a class of ASCII that is written in brackets with colons. -/
def asciiClass? : String → Option CharSet
  | "alnum" => some (.ranges [(0x30, 0x39), (0x41, 0x5A), (0x61, 0x7A)])
  | "alpha" => some (.ranges [(0x41, 0x5A), (0x61, 0x7A)])
  | "ascii" => some ascii
  | "blank" => some (.ranges [(0x09, 0x09), (0x20, 0x20)])
  | "cntrl" => some (.ranges [(0x00, 0x1F), (0x7F, 0x7F)])
  | "digit" => some (.ranges [(0x30, 0x39)])
  | "graph" => some (.ranges [(0x21, 0x7E)])
  | "lower" => some (.ranges [(0x61, 0x7A)])
  | "print" => some (.ranges [(0x20, 0x7E)])
  | "punct" => some (.ranges [(0x21, 0x2F), (0x3A, 0x40), (0x5B, 0x60), (0x7B, 0x7E)])
  | "space" => some (.ranges [(0x09, 0x0D), (0x20, 0x20)])
  | "upper" => some (.ranges [(0x41, 0x5A)])
  | "word" => some (.ranges asciiWord)
  | "xdigit" => some (.ranges [(0x30, 0x39), (0x41, 0x46), (0x61, 0x66)])
  | _ => none

end CharSet

end Formula.Regex
