import Formula.Value.Order

/-!
# Records

A record maps keys to values, in the order of the keys. As a value it is a shared object with the
identity that it is given.
-/

namespace Formula

/-- A mapping from keys to values. -/
structure Record (H : Type) where
  fields : List (String × Value H)
  sorted : Fields.Sorted fields

namespace Record

variable {H : Type}

/-- The record without keys. -/
def empty : Record H := ⟨[], List.Pairwise.nil⟩

instance : Inhabited (Record H) := ⟨empty⟩

/-- The record with the value of a key set. -/
def insert (record : Record H) (key : String) (value : Value H) : Record H :=
  ⟨Fields.insert key value record.fields, record.sorted.insert key value⟩

/-- The value that a key has, and the record with another one in its place. -/
def exchange (record : Record H) (key : String) (value : Value H) : Option (Value H) × Record H :=
  let exchanged := Fields.exchange key value record.fields
  (exchanged.1, ⟨exchanged.2, record.sorted.exchange key value⟩)

/-- The value of a key. -/
def get? (record : Record H) (key : String) : Option (Value H) :=
  Fields.lookup? key record.fields

/-- The number of keys. -/
def size (record : Record H) : Nat :=
  record.fields.length

/-- The keys in increasing order. -/
def keys (record : Record H) : List String :=
  record.fields.map Prod.fst

/-- The record that writing the entries in order leaves. -/
def ofEntries (entries : List (String × Value H)) : Record H :=
  ⟨Fields.ofEntries entries, Fields.sorted_of_entries entries⟩

/-- The record as a value. -/
def toValue (record : Record H) (identity : Option Nat) : Value H :=
  .record identity record.fields

end Record

end Formula
