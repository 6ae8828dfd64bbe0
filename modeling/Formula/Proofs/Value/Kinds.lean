import Formula.Proofs.Value.Order

/-!
# The comparison kind by kind

Numbers, booleans, date-times and durations compare by their numeric views, strings as texts, and
null is equal to itself. Values of different kinds have no order, unless one of them is a host
object or numeric text stands beside a number.
-/

namespace Formula.Value

variable {H : Type}

/-- Whether a value compares by its numeric view. -/
def isNumeric : Value H → Bool
  | .number _ | .boolean _ | .dateTime _ | .duration _ => true
  | _ => false

/-- Whether a value is a text. -/
def isText : Value H → Bool
  | .string _ => true
  | _ => false

/-- Whether a value is an object: a record or an object of the host. -/
def isObject : Value H → Bool
  | .record .. | .host .. => true
  | _ => false

/-- The comparable form of a numeric value is its numeric view. -/
theorem comparable_form_of_numeric {x : Value H} (h : x.isNumeric = true) :
    x.comparableForm = .number x.toNumber := by
  cases x with
  | number | boolean | dateTime | duration => rfl
  | _ => exact nomatch h

/-- A numeric value is no shared object. -/
theorem identical_of_numeric {x : Value H} (h : x.isNumeric = true) (y : Value H) :
    x.identical y = false := by
  cases x with
  | number | boolean | dateTime | duration => rfl
  | _ => exact nomatch h

variable [HostObject H]

/-- Numeric values compare by their numeric views. -/
theorem compare_of_numeric {x y : Value H} (hx : x.isNumeric = true) (hy : y.isNumeric = true) :
    x.compare? y = x.toNumber.order y.toNumber := by
  have hsequences : ¬∃ as bs, x = .sequence as ∧ y = .sequence bs := by
    rintro ⟨as, bs, rfl, rfl⟩
    exact nomatch hx
  rw [compare_of_not_sequences hsequences, identical_of_numeric hx,
    comparable_form_of_numeric hx, comparable_form_of_numeric hy]
  generalize x.toNumber = n
  generalize y.toNumber = m
  rfl

/-- Texts compare by their characters. -/
theorem compare_strings (s t : String) :
    (string s : Value H).compare? (.string t) = some (compare s t) := by
  rw [compare_of_not_sequences (by simp)]
  rfl

end Formula.Value
