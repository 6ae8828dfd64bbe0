import Formula.Regex.Reader

/-!
# Matching

A match is searched for at all places of a text at once. A set of places is a number whose bits are
the places, and a pattern maps the places where it may start to those where it may end.
-/

namespace Formula.Regex

/-- A set of places of a text; place zero is before the first character. -/
abbrev Places : Type := Nat

/-- The places of the characters with a property, each that before its character. -/
def placesOf (holds : Char → Bool) : List Char → Places
  | [] => 0
  | c :: rest => 2 * placesOf holds rest + if holds c then 1 else 0

/-- The places where an assertion holds, given the character before the text. -/
def placesWhere (assertion : Assertion) (before : Option Char) : List Char → Places
  | [] => if assertion.holds before none then 1 else 0
  | c :: rest =>
    2 * placesWhere assertion (some c) rest + if assertion.holds before (some c) then 1 else 0

/-- All places of a text. -/
def allPlaces (text : List Char) : Places :=
  twoPow (text.length + 1) - 1

/-- The result of applying a function a number of times. -/
def iterate (f : Places → Places) : Nat → Places → Places
  | 0, places => places
  | count + 1, places => iterate f count (f places)

/-- The places that applying a function at most a number of times reaches. -/
def reach (f : Places → Places) : Nat → Places → Places
  | 0, places => places
  | count + 1, places =>
    let more := places ||| f places
    if more = places then places else reach f count more

/-- The places where a pattern ends that starts at one of some places. More repetitions than the
text has places lead nowhere else, so counts are cut to their number. -/
def Pattern.ends (text : List Char) : Pattern → Places → Places
  | .empty, starts => starts
  | .chars set, starts => (starts &&& placesOf (fun c => set.contains c.toNat) text) <<< 1
  | .assertion condition, starts => starts &&& placesWhere condition none text
  | .sequence first second, starts => second.ends text (first.ends text starts)
  | .choice first second, starts => first.ends text starts ||| second.ends text starts
  | .repetition pattern least greatest, starts =>
    let most := text.length + 1
    let required := iterate (pattern.ends text) (min least most) starts
    let optional := match greatest with
      | some greatest => min (greatest - least) most
      | none => most
    reach (pattern.ends text) optional required

/-- Whether the pattern that a text spells matches somewhere in another text; there is no answer for
a text that spells none. -/
def isMatch? (pattern text : List Char) : Option Bool :=
  (Pattern.read? pattern).map fun pattern => pattern.ends text (allPlaces text) ≠ 0

end Formula.Regex
