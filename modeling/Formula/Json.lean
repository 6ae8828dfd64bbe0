import Formula.Binary64.Arithmetic
import Formula.Fields

/-!
# JSON documents

A document is null, a boolean, a number, a string, an array or an object. A number is an integer or
a finite double; the members of an object stand in the order of their names.
-/

namespace Formula

/-- A JSON document. -/
inductive Json where
  | null
  | boolean (b : Bool)
  | integer (n : Int)
  | real (x : Binary64) (finite : x.isFinite)
  | string (s : String)
  | array (items : List Json)
  | object (members : List (String × Json))

namespace Json

instance : Inhabited Json := ⟨.null⟩

/-- A double as a number, if it is finite. -/
def ofBinary64? (x : Binary64) : Option Json :=
  if finite : x.isFinite then some (.real x finite) else none

/-- An object with the given members; the last one of a name is kept. -/
def ofMembers (members : List (String × Json)) : Json :=
  .object (Fields.ofEntries members)

end Json

end Formula
