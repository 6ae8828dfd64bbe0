import Formula.Binary64.Shortest

/-!
# The text of a number

Numbers are written with the fewest digits that read back, never with an exponent, and with words
for the values that are not finite.
-/

namespace Formula.Binary64

/-- A finite double in full: a sign bit gives a minus, also before zero. -/
def positional (x : Binary64) : List Char :=
  let digits := (shortest .up x).positional
  if x.isNegative then '-' :: digits else digits

/-- The text of a number. -/
def toText : Binary64 → String
  | .nan => "NaN"
  | .infinite negative => if negative then "-Infinity" else "Infinity"
  | x => String.ofList x.positional

instance : ToString Binary64 := ⟨toText⟩

end Formula.Binary64
