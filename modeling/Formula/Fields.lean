/-!
# Ordered fields

Fields are a list of keys with values in increasing order of the keys, which is the order of their
code points. A key stands at most once; writing it again replaces its value.
-/

namespace Formula.Fields

variable {α : Type}

/-- Whether the keys increase strictly. -/
def Sorted (fields : List (String × α)) : Prop :=
  fields.Pairwise fun a b => a.1 < b.1

/-- The value of a key. -/
def lookup? (key : String) : List (String × α) → Option α
  | [] => none
  | (name, value) :: rest => if name = key then some value else lookup? key rest

/-- The fields with the value of a key set. -/
def insert (key : String) (value : α) : List (String × α) → List (String × α)
  | [] => [(key, value)]
  | (name, old) :: rest =>
    if key < name then (key, value) :: (name, old) :: rest
    else if name = key then (key, value) :: rest
    else (name, old) :: insert key value rest

/-- The value that a key has, and the fields with another one in its place. A greater key ends the
search. -/
def exchange (key : String) (value : α) : List (String × α) → Option α × List (String × α)
  | [] => (none, [(key, value)])
  | (name, old) :: rest =>
    if key < name then (none, (key, value) :: (name, old) :: rest)
    else if name = key then (some old, (key, value) :: rest)
    else
      match exchange key value rest with
      | (found, rest) => (found, (name, old) :: rest)

/-- The fields that writing the entries in order leaves. -/
def ofEntries (entries : List (String × α)) : List (String × α) :=
  entries.foldl (fun fields entry => insert entry.1 entry.2 fields) []

/-- An exchange leaves the fields that an insertion does. -/
theorem exchange_snd (key : String) (value : α) (fields : List (String × α)) :
    (exchange key value fields).2 = insert key value fields := by
  induction fields with
  | nil => rfl
  | cons head rest ih =>
    obtain ⟨name, old⟩ := head
    simp only [exchange, insert]
    split
    · rfl
    · split
      · rfl
      · exact congrArg _ ih

/-- Every entry after an insertion was there or was inserted. -/
theorem mem_insert {key : String} {value : α} {fields : List (String × α)}
    {entry : String × α} (hmem : entry ∈ insert key value fields) :
    entry = (key, value) ∨ entry ∈ fields := by
  induction fields with
  | nil => exact .inl (List.mem_singleton.1 hmem)
  | cons head rest ih =>
    obtain ⟨name, old⟩ := head
    simp only [insert] at hmem
    split at hmem
    · exact List.mem_cons.1 hmem
    · split at hmem
      · exact (List.mem_cons.1 hmem).imp id (List.mem_cons_of_mem _)
      · rcases List.mem_cons.1 hmem with rfl | hrest
        · exact .inr List.mem_cons_self
        · exact (ih hrest).imp id (List.mem_cons_of_mem _)

/-- Insertion keeps the order of the keys. -/
theorem Sorted.insert {fields : List (String × α)} (hsorted : Sorted fields) (key : String)
    (value : α) : Sorted (Fields.insert key value fields) := by
  induction fields with
  | nil => exact List.pairwise_singleton _ _
  | cons head rest ih =>
    obtain ⟨name, old⟩ := head
    obtain ⟨hhead, hrest⟩ := List.pairwise_cons.1 hsorted
    simp only [Fields.insert]
    split
    · next hless =>
      refine List.Pairwise.cons (fun entry hmem => ?_) hsorted
      rcases List.mem_cons.1 hmem with rfl | htail
      · exact hless
      · exact String.lt_trans hless (hhead _ htail)
    · next hnotLess =>
      split
      · next hequal =>
        subst hequal
        exact List.Pairwise.cons hhead hrest
      · next hdiffer =>
        refine List.Pairwise.cons (fun entry hmem => ?_) (ih hrest)
        rcases mem_insert hmem with rfl | htail
        · have hnameLe : name ≤ key := String.not_lt.1 hnotLess
          exact Classical.byContradiction fun hnot =>
            hdiffer (String.le_antisymm hnameLe (String.not_lt.1 hnot))
        · exact hhead _ htail

/-- An exchange keeps the order of the keys. -/
theorem Sorted.exchange {fields : List (String × α)} (hsorted : Sorted fields) (key : String)
    (value : α) : Sorted (Fields.exchange key value fields).2 := by
  rw [exchange_snd]
  exact hsorted.insert key value

/-- What entries leave is in order. -/
theorem sorted_of_entries (entries : List (String × α)) : Sorted (ofEntries entries) := by
  suffices ∀ fields : List (String × α), Sorted fields →
      Sorted (entries.foldl (fun fields entry => Fields.insert entry.1 entry.2 fields) fields) from
    this [] List.Pairwise.nil
  induction entries with
  | nil => exact fun _ hsorted => hsorted
  | cons entry rest ih => exact fun _ hsorted => ih _ (hsorted.insert _ _)

end Formula.Fields
