import Formula.Value.Coercion

/-!
# Comparing values

`compare?` is the three-way comparison behind the comparison operators; it has no answer for values
that cannot be compared. `structuralEq` compares how values are built, and decides equality where no
order applies.
-/

namespace Formula.Value

variable {H : Type}

/-- Whether two values are one shared object, or both null. -/
def identical : Value H → Value H → Bool
  | .null, .null => true
  | .record (some a) _, .record (some b) _ => a = b
  | .host a _, .host b _ => a = b
  | _, _ => false

/-- Booleans, date-times and durations compare as numbers. -/
def comparableForm : Value H → Value H
  | v@(.boolean _) | v@(.dateTime _) | v@(.duration _) => .number v.toNumber
  | v => v

variable [HostObject H]

mutual
/-- Whether two values are built alike; shared objects always are. A host object is asked on the left
only, and a record is never built like a host object. -/
def structuralEq : Value H → Value H → Bool
  | .null, .null => true
  | .number a, .number b => a.numEq b
  | .boolean a, .boolean b => a = b
  | .string a, .string b => a = b
  | .dateTime a, .dateTime b => a = b
  | .duration a, .duration b => a = b
  | .sequence a, .sequence b => itemsEq a b
  | .record i a, .record j b => (i.isSome && i = j) || fieldsEq a b
  | .host i a, .host j b => i = j || HostObject.structuralEq a (.host j b)
  | .host _ a, .record j fields => HostObject.structuralEq a (.record j fields)
  | _, _ => false

/-- Whether items are built alike one by one. -/
def itemsEq : List (Value H) → List (Value H) → Bool
  | [], [] => true
  | a :: as, b :: bs => a.structuralEq b && itemsEq as bs
  | _, _ => false

/-- Whether fields have the same keys and are built alike one by one. -/
def fieldsEq : List (String × Value H) → List (String × Value H) → Bool
  | [], [] => true
  | (i, a) :: as, (j, b) :: bs => i = j && a.structuralEq b && fieldsEq as bs
  | _, _ => false
end

/-- The order that a host object gives itself beside a value; other values give none. -/
def hostOrder? : Value H → Value H → Option Ordering
  | .host _ object, other => HostObject.naturalOrder? object other
  | _, _ => none

/-- A host object's own order, asked of the left value first. -/
def naturalOrder? (x y : Value H) : Option Ordering :=
  x.hostOrder? y <|> (y.hostOrder? x).map Ordering.swap

/-- The order of numbers, also beside numeric text; other values are at most equal. -/
def numericOrder? : Value H → Value H → Option Ordering
  | .number a, .number b => a.order b
  | .number a, .string s => (readNumber? s).bind fun b => a.order b
  | .string s, .number b => (readNumber? s).bind fun a => a.order b
  | .number _, _ | _, .number _ => none
  | x, y => if x.structuralEq y then some .eq else none

/-- The order of two values in comparable form that are not both sequences: strings by their code
points, host objects by their own order, and the rest as numbers. -/
def scalarOrder? : Value H → Value H → Option Ordering
  | .string a, .string b => some (compare a b)
  | x, y => naturalOrder? x y <|> numericOrder? x y

mutual
/-- The order of two values, if they can be compared. Sequences go by length and then by their first
items that differ. -/
def compare? : Value H → Value H → Option Ordering
  | .sequence a, .sequence b =>
    if a.length = b.length then compareItems? a b else some (compare a.length b.length)
  | x, y =>
    if x.identical y then some .eq else scalarOrder? x.comparableForm y.comparableForm

/-- The order of the first items that are not equal. -/
def compareItems? : List (Value H) → List (Value H) → Option Ordering
  | a :: as, b :: bs =>
    match a.compare? b with
    | some .eq => compareItems? as bs
    | other => other
  | _, _ => some .eq
end

/-- The equality of the language. -/
def looseEq (x y : Value H) : Bool :=
  x.compare? y == some .eq

end Formula.Value
