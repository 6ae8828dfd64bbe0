import Formula.Fields
import Mathlib

/-!
# Fields in order

Entries that stand in order are left as they are when they are written one by one,
`of_entries_of_sorted`. A change of the values keeps the order and what the keys lead to.
-/

namespace Formula.Fields

variable {α β : Type} {fields : List (String × α)}

/-- An entry whose key is behind all others is put at the end. -/
theorem insert_at_end {key : String} (value : α) (h : ∀ entry ∈ fields, entry.1 < key) :
    insert key value fields = fields ++ [(key, value)] := by
  induction fields with
  | nil => rfl
  | cons head rest ih =>
      obtain ⟨hhead, hrest⟩ := List.forall_mem_cons.1 h
      have hbefore : ¬key < head.1 := fun hless => lt_asymm hless hhead
      rw [insert, if_neg hbefore, if_neg (ne_of_lt hhead), ih hrest, List.cons_append]

/-- Entries in order are left as they are. -/
theorem of_entries_of_sorted (h : Sorted fields) : ofEntries fields = fields := by
  -- The entries that are still to be written stand behind those that are.
  have hall (done left : List (String × α)) (hsorted : Sorted (done ++ left)) :
      left.foldl (fun fields entry => insert entry.1 entry.2 fields) done = done ++ left := by
    induction left generalizing done with
    | nil => rw [List.append_nil, List.foldl_nil]
    | cons entry left ih =>
        have hbehind : ∀ other ∈ done, other.1 < entry.1 := by
          intro other hother
          exact (List.pairwise_append.1 hsorted).2.2 other hother entry List.mem_cons_self
        have hsplit : done ++ entry :: left = done ++ [entry] ++ left := by simp
        rw [hsplit] at hsorted ⊢
        rw [List.foldl_cons, insert_at_end entry.2 hbehind]
        exact ih _ hsorted
  exact hall [] fields h

/-- What entries leave are some of them. -/
theorem mem_of_mem_of_entries {entries : List (String × α)} {entry : String × α}
    (h : entry ∈ ofEntries entries) : entry ∈ entries := by
  have hall (done left : List (String × α))
      (hmem : entry ∈ left.foldl (fun fields entry => insert entry.1 entry.2 fields) done) :
      entry ∈ done ∨ entry ∈ left := by
    induction left generalizing done with
    | nil => exact .inl hmem
    | cons head left ih =>
        rcases ih _ hmem with hdone | hleft
        · rcases mem_insert hdone with rfl | hdone
          · exact .inr List.mem_cons_self
          · exact .inl hdone
        · exact .inr (List.mem_cons_of_mem head hleft)
  exact (hall [] entries h).resolve_left nofun

/-- Fields with other values in the place of their own. -/
def mapValues (f : α → β) (fields : List (String × α)) : List (String × β) :=
  fields.map fun field => (field.1, f field.2)

/-- Two changes of the values are one. -/
theorem map_values_map_values {γ : Type} (g : β → γ) (f : α → β) (fields : List (String × α)) :
    mapValues g (mapValues f fields) = mapValues (fun value => g (f value)) fields :=
  List.map_map

/-- Values that are changed to themselves are not changed. -/
theorem map_values_eq_self {f : α → α} (h : ∀ field ∈ fields, f field.2 = field.2) :
    mapValues f fields = fields := by
  refine (List.map_congr_left fun field hfield => ?_).trans (List.map_id fields)
  rw [h field hfield, id]

/-- A change of the values keeps the order. -/
theorem Sorted.map_values (h : Sorted fields) (f : α → β) : Sorted (mapValues f fields) :=
  List.pairwise_map.2 h

/-- A change of the values changes what a key leads to. -/
theorem lookup_map_values (key : String) (f : α → β) (fields : List (String × α)) :
    lookup? key (mapValues f fields) = (lookup? key fields).map f := by
  induction fields with
  | nil => rfl
  | cons head rest ih =>
      show (if head.1 = key then some (f head.2) else lookup? key (mapValues f rest)) =
        (if head.1 = key then some head.2 else lookup? key rest).map f
      rw [ih]
      split <;> rfl

/-- What a key leads to stands in the fields. -/
theorem mem_of_lookup {key : String} {value : α} (h : lookup? key fields = some value) :
    (key, value) ∈ fields := by
  induction fields with
  | nil => exact nomatch h
  | cons head rest ih =>
      rw [lookup?] at h
      split at h
      · rename_i hkey
        obtain rfl := Option.some.inj h
        exact hkey ▸ List.mem_cons_self
      · exact List.mem_cons_of_mem head (ih h)

/-- A key leads nowhere exactly if it is no key of the fields. -/
theorem lookup_eq_none_iff {key : String} :
    lookup? key fields = none ↔ key ∉ fields.map Prod.fst := by
  induction fields with
  | nil => simp [lookup?]
  | cons head rest ih =>
      rw [lookup?, List.map_cons, List.mem_cons, not_or, ← ih]
      split
      · rename_i hkey
        exact iff_of_false (by simp) fun h => h.1 hkey.symm
      · rename_i hkey
        exact (and_iff_right (Ne.symm hkey)).symm

/-- Insertion changes what its key leads to, and nothing else. -/
theorem lookup_insert (key other : String) (value : α) (fields : List (String × α)) :
    lookup? other (insert key value fields) =
      if key = other then some value else lookup? other fields := by
  induction fields with
  | nil => rfl
  | cons head rest ih =>
      obtain ⟨name, old⟩ := head
      rw [insert]
      split
      · rfl
      · split
        · rename_i hname
          subst hname
          simp only [lookup?]
          split <;> rfl
        · rename_i hname
          simp only [lookup?, ih]
          split
          · rename_i hother
            rw [if_neg fun hkey => hname (hother.trans hkey.symm)]
          · rfl

/-- In fields in order, a key that is before the first one leads nowhere. -/
theorem Sorted.lookup_eq_none {key : String} {head : String × α} (h : Sorted (head :: fields))
    (hkey : key < head.1) : lookup? key (head :: fields) = none := by
  refine lookup_eq_none_iff.2 fun hmem => ?_
  obtain ⟨entry, hentry, rfl⟩ := List.mem_map.1 hmem
  rcases List.mem_cons.1 hentry with rfl | hrest
  · exact lt_irrefl _ hkey
  · exact lt_asymm hkey ((List.pairwise_cons.1 h).1 entry hrest)

/-- In fields in order, an exchange answers what the key led to. -/
theorem Sorted.exchange_fst (h : Sorted fields) (key : String) (value : α) :
    (Fields.exchange key value fields).1 = lookup? key fields := by
  induction fields with
  | nil => rfl
  | cons head rest ih =>
      obtain ⟨name, old⟩ := head
      simp only [Fields.exchange]
      split
      · rename_i hkey
        exact (h.lookup_eq_none hkey).symm
      · split
        · rename_i hname
          simp [lookup?, hname]
        · rename_i hname
          simp [lookup?, hname, ih (List.pairwise_cons.1 h).2]

/-- An entry of fields in order is what its key leads to. -/
theorem Sorted.lookup_of_mem (h : Sorted fields) {entry : String × α} (hmem : entry ∈ fields) :
    lookup? entry.1 fields = some entry.2 := by
  induction fields with
  | nil => exact nomatch hmem
  | cons head rest ih =>
      obtain ⟨hhead, hrest⟩ := List.pairwise_cons.1 h
      rcases List.mem_cons.1 hmem with rfl | hmem
      · exact if_pos rfl
      · rw [lookup?, if_neg (ne_of_lt (hhead entry hmem)), ih hrest hmem]

/-- Fields in order whose keys lead to the same values are the same. -/
theorem Sorted.eq_of_lookup {others : List (String × α)} (h : Sorted fields)
    (hothers : Sorted others) (hsame : ∀ key, lookup? key fields = lookup? key others) :
    fields = others := by
  have hmem (entry : String × α) : entry ∈ fields ↔ entry ∈ others := by
    constructor
    · intro hentry
      exact mem_of_lookup (hsame entry.1 ▸ h.lookup_of_mem hentry)
    · intro hentry
      exact mem_of_lookup ((hsame entry.1).symm ▸ hothers.lookup_of_mem hentry)
  have hnodup {fields : List (String × α)} (h : Sorted fields) : fields.Nodup := by
    refine List.Pairwise.imp ?_ h
    rintro a b hlt rfl
    exact lt_irrefl _ hlt
  refine List.Perm.eq_of_pairwise (fun a b _ _ hab hba => absurd hab (lt_asymm hba)) h hothers ?_
  exact (List.perm_ext_iff_of_nodup (hnodup h) (hnodup hothers)).2 hmem

/-- The value of the last entry with a key. -/
def lastValue? (key : String) (entries : List (String × α)) : Option α :=
  lookup? key entries.reverse

/-- The last value is that of one more entry, if it has the key. -/
theorem last_value_append (key other : String) (value : α) (entries : List (String × α)) :
    lastValue? other (entries ++ [(key, value)]) =
      if key = other then some value else lastValue? other entries := by
  rw [lastValue?, List.reverse_append]
  rfl

/-- A key has a last value exactly if there are entries with it. -/
theorem last_value_eq_none_iff {key : String} {entries : List (String × α)} :
    lastValue? key entries = none ↔ key ∉ entries.map Prod.fst := by
  rw [lastValue?, lookup_eq_none_iff, List.map_reverse, List.mem_reverse]

/-- One more entry is inserted into what the others leave. -/
theorem of_entries_append (entries : List (String × α)) (entry : String × α) :
    ofEntries (entries ++ [entry]) = insert entry.1 entry.2 (ofEntries entries) :=
  List.foldl_append

/-- What entries leave leads each key to its last value. -/
theorem lookup_of_entries (key : String) (entries : List (String × α)) :
    lookup? key (ofEntries entries) = lastValue? key entries := by
  induction entries using List.reverseRecOn with
  | nil => rfl
  | append_singleton entries entry ih =>
      rw [of_entries_append, lookup_insert, last_value_append, ih]

end Formula.Fields
