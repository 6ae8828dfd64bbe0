import Formula.Proofs.Binary64.Exact
import Formula.Proofs.Json.Document
import Formula.Value.Json

/-!
# The normal form of documents

A document is normal if turning it into a value and back gives it again. The document of every value
is normal, and the value of a well-formed document is built like the value of its normal form,
`normal_form`. The numbers decide this: an integral double of at most 53 bits becomes an integer and
comes back as itself, every other finite double stays as it is, and the rest are null.
-/

namespace Formula

namespace Binary64

/-- Finite doubles are equal if they are the same number of units. -/
theorem num_eq_of_units {x y : Binary64} (hx : x.isFinite = true) (hy : y.isFinite = true)
    (h : x.units = y.units) : x.numEq y = true := by
  have hposition {z : Binary64} (hz : z.isFinite = true) : z.position = some z.units := by
    cases z with
    | nan => exact nomatch hz
    | infinite negative => exact nomatch hz
    | finite negative significand shift canonical => rfl
  rw [numEq, order, hposition hx, hposition hy, h]
  exact beq_iff_eq.2 (congrArg some Std.ReflCmp.compare_self)

end Binary64

namespace Json

/-- The document of a number is an integer of at most 53 bits with the same units, the number itself,
or null if the number is not finite. -/
theorem of_number_cases (x : Binary64) :
    (∃ k : Int, k.natAbs < 2 ^ 53 ∧ x.isFinite = true ∧ x.units = k * Binary64.unitsPerOne ∧
      ofNumber x = .integer k) ∨
    (∃ finite, ofNumber x = .real x finite) ∨ (x.isFinite = false ∧ ofNumber x = .null) := by
  by_cases hintegral : x.isIntegral = true ∧ x.units.natAbs < twoPow 53 * Binary64.unitsPerOne
  · obtain ⟨hintegral, hsize⟩ := hintegral
    obtain ⟨hfinite, hwhole⟩ := Bool.and_eq_true_iff.1 hintegral
    obtain ⟨k, hk⟩ := Int.dvd_of_emod_eq_zero (beq_iff_eq.1 hwhole)
    rw [Int.mul_comm] at hk
    have hbits : k.natAbs < twoPow 53 := by
      rw [hk, Int.natAbs_mul, Int.natAbs_natCast] at hsize
      exact Nat.lt_of_mul_lt_mul_right hsize
    change k.natAbs < 2 ^ 53 at hbits
    have hint : x.toInt64 = k :=
      Binary64.to_int_clamped_of_units hfinite hk (by omega) (by omega)
    refine .inl ⟨k, hbits, hfinite, hk, ?_⟩
    rw [ofNumber, if_pos (by simp [hintegral, hsize]), hint]
  · have hother : ofNumber x = (ofBinary64? x).getD .null := by
      rw [ofNumber, if_neg (by simpa using hintegral)]
    rw [hother, ofBinary64?]
    by_cases hfinite : x.isFinite = true
    · rw [dif_pos hfinite]
      exact .inr (.inl ⟨hfinite, rfl⟩)
    · rw [dif_neg hfinite]
      exact .inr (.inr ⟨by simpa using hfinite, rfl⟩)

/-- An integer of at most 53 bits is the document of its double. -/
theorem of_number_of_int {k : Int} (hk : k.natAbs < 2 ^ 53) : ofNumber (.ofInt k) = .integer k := by
  obtain ⟨hfinite, hunits⟩ := Binary64.units_of_int hk
  have hwhole : (Binary64.ofInt k).isIntegral = true := by
    rw [Binary64.isIntegral, hfinite, hunits, Int.mul_emod_left]
    rfl
  have hsize : (Binary64.ofInt k).units.natAbs < twoPow 53 * Binary64.unitsPerOne := by
    rw [hunits, Int.natAbs_mul, Int.natAbs_natCast]
    exact Nat.mul_lt_mul_of_pos_right hk Binary64.units_per_one_pos
  have hint : (Binary64.ofInt k).toInt64 = k :=
    Binary64.to_int_clamped_of_int hk (by omega) (by omega)
  rw [ofNumber, if_pos (by simp [hwhole, hsize]), hint]

end Json

namespace Value

variable {H : Type}

/-- Items become values one by one. -/
theorem of_json_items_eq_map (items : List Json) :
    (ofJsonItems items : List (Value H)) = items.map ofJson := by
  induction items with
  | nil => rfl
  | cons item rest ih => rw [ofJsonItems, ih, List.map_cons]

/-- The values of members become those of fields. -/
theorem of_json_members_eq_map (members : List (String × Json)) :
    (ofJsonMembers members : List (String × Value H)) = Fields.mapValues ofJson members := by
  induction members with
  | nil => rfl
  | cons member rest ih => rw [ofJsonMembers, ih]; rfl

/-- The value of an object whose members are in order has its members. -/
theorem of_json_object {members : List (String × Json)} (h : Fields.Sorted members) :
    (ofJson (.object members) : Value H) = .record none (Fields.mapValues ofJson members) := by
  show Value.record none (Fields.ofEntries (ofJsonMembers members)) = _
  rw [of_json_members_eq_map, Fields.of_entries_of_sorted (h.map_values _)]

variable [HostObject H]

/-- Items become documents one by one. -/
theorem to_json_items_eq_map (items : List (Value H)) : toJsonItems items = items.map toJson := by
  induction items with
  | nil => rfl
  | cons item rest ih => rw [toJsonItems, ih, List.map_cons]

/-- The values of fields become those of members. -/
theorem to_json_fields_eq_map (fields : List (String × Value H)) :
    toJsonFields fields = Fields.mapValues toJson fields := by
  induction fields with
  | nil => rfl
  | cons field rest ih => rw [toJsonFields, ih]; rfl

/-- The document of a record whose fields are in order has its fields. -/
theorem to_json_record (identity : Option Nat) {fields : List (String × Value H)}
    (h : Fields.Sorted fields) :
    (Value.record identity fields).toJson = .object (Fields.mapValues toJson fields) := by
  show Json.object (Fields.ofEntries (toJsonFields fields)) = _
  rw [to_json_fields_eq_map, Fields.of_entries_of_sorted (h.map_values _)]

variable (H) in
/-- Turning a document into a value and back gives it again. -/
def Normal (document : Json) : Prop :=
  (ofJson document : Value H).toJson = document

/-- The document of a number is normal. -/
theorem normal_number (x : Binary64) : Normal H (Json.ofNumber x) := by
  rcases Json.of_number_cases x with ⟨k, hk, -, -, hnumber⟩ | ⟨finite, hnumber⟩ | ⟨-, hnumber⟩
  · rw [hnumber]
    exact Json.of_number_of_int hk
  · rw [hnumber]
    exact hnumber
  · rw [hnumber]
    rfl

/-- An array of normal documents is normal. -/
theorem normal_array {items : List Json} (h : ∀ item ∈ items, Normal H item) :
    Normal H (.array items) := by
  show Json.array (toJsonItems (ofJsonItems items)) = .array items
  rw [to_json_items_eq_map, of_json_items_eq_map, List.map_map]
  exact congrArg Json.array ((List.map_congr_left h).trans (List.map_id items))

/-- An object of normal documents is normal if its members are in order. -/
theorem normal_object {members : List (String × Json)} (hsorted : Fields.Sorted members)
    (h : ∀ member ∈ members, Normal H member.2) : Normal H (.object members) := by
  rw [Normal, of_json_object hsorted, to_json_record _ (hsorted.map_values _),
    Fields.map_values_map_values, Fields.map_values_eq_self h]

mutual
/-- The document of a value is normal. -/
theorem to_json_normal (value : Value H) : Normal H value.toJson := by
  cases value with
  | number x => exact normal_number x
  | sequence items => exact normal_array (items_to_json_normal items)
  | record identity fields =>
      refine normal_object (Fields.sorted_of_entries _) fun member hmember => ?_
      exact fields_to_json_normal fields member (Fields.mem_of_mem_of_entries hmember)
  | null | boolean | string | dateTime | duration | host => exact rfl

/-- The documents of items are normal. -/
theorem items_to_json_normal (items : List (Value H)) :
    ∀ document ∈ toJsonItems items, Normal H document := by
  match items with
  | [] => exact nofun
  | item :: rest =>
      exact List.forall_mem_cons.2 ⟨to_json_normal item, items_to_json_normal rest⟩

/-- The documents of fields are normal. -/
theorem fields_to_json_normal (fields : List (String × Value H)) :
    ∀ member ∈ toJsonFields fields, Normal H member.2 := by
  match fields with
  | [] => exact nofun
  | (_, value) :: rest =>
      exact List.forall_mem_cons.2 ⟨to_json_normal value, fields_to_json_normal rest⟩
end

/-- A finite number is equal to the value of its document. -/
theorem structural_eq_of_number {x : Binary64} (hfinite : x.isFinite = true) :
    (ofJson (Json.ofNumber x) : Value H).structuralEq (.number x) = true := by
  rcases Json.of_number_cases x with ⟨k, hk, -, hunits, hnumber⟩ | ⟨_, hnumber⟩ | ⟨hother, -⟩
  · obtain ⟨hint, hintunits⟩ := Binary64.units_of_int hk
    rw [hnumber]
    exact Binary64.num_eq_of_units hint hfinite (hintunits.trans hunits.symm)
  · rw [hnumber]
    exact Binary64.num_eq_of_units hfinite hfinite rfl
  · exact absurd hfinite (by simp [hother])

/-- Items are built alike if what becomes of each of them is. -/
theorem items_eq_map {α : Type} {f g : α → Value H} {items : List α}
    (h : ∀ item ∈ items, (f item).structuralEq (g item) = true) :
    itemsEq (items.map f) (items.map g) = true := by
  induction items with
  | nil => rfl
  | cons item rest ih =>
      obtain ⟨hitem, hrest⟩ := List.forall_mem_cons.1 h
      rw [List.map_cons, List.map_cons, itemsEq, hitem, ih hrest]
      rfl

/-- Fields are built alike if what becomes of each of their values is. -/
theorem fields_eq_map_values {α : Type} {f g : α → Value H} {fields : List (String × α)}
    (h : ∀ field ∈ fields, (f field.2).structuralEq (g field.2) = true) :
    fieldsEq (Fields.mapValues f fields) (Fields.mapValues g fields) = true := by
  induction fields with
  | nil => rfl
  | cons field rest ih =>
      obtain ⟨hfield, hrest⟩ := List.forall_mem_cons.1 h
      show (decide (field.1 = field.1) && (f field.2).structuralEq (g field.2) &&
        fieldsEq (Fields.mapValues f rest) (Fields.mapValues g rest)) = true
      rw [hfield, ih hrest, decide_eq_true rfl]
      rfl

/-- The value of a well-formed document is built like the value of its normal form. -/
theorem structural_eq_of_well_formed {document : Json} (h : document.WellFormed) :
    (ofJson (ofJson document : Value H).toJson : Value H).structuralEq (ofJson document) = true := by
  induction h with
  | null => rfl
  | boolean b => exact decide_eq_true rfl
  | integer hlow hhigh =>
      exact structural_eq_of_number (Binary64.of_int_finite (show 65 ≤ 1023 by decide) (by omega))
  | real x finite => exact structural_eq_of_number finite
  | string s => exact decide_eq_true rfl
  | array hitems ih =>
      rename_i items
      show itemsEq (ofJsonItems (toJsonItems (ofJsonItems items))) (ofJsonItems items) = true
      rw [of_json_items_eq_map, of_json_items_eq_map, to_json_items_eq_map, List.map_map,
        List.map_map]
      exact items_eq_map ih
  | object hsorted hmembers ih =>
      rw [of_json_object hsorted, to_json_record _ (hsorted.map_values _),
        Fields.map_values_map_values, of_json_object (hsorted.map_values _),
        Fields.map_values_map_values]
      show fieldsEq _ _ = true
      exact fields_eq_map_values ih

variable (H) in
/-- The document of a value is the document of the value that it becomes; and a well-formed document
becomes a value that is built like the one its own document becomes, so that after the first
conversion no key, item, order or number is lost. -/
theorem normal_form :
    (∀ value : Value H, (ofJson value.toJson : Value H).toJson = value.toJson) ∧
    (∀ document : Json, document.WellFormed →
      (ofJson (ofJson document : Value H).toJson : Value H).structuralEq (ofJson document) =
        true) :=
  ⟨to_json_normal, fun _ hdocument => structural_eq_of_well_formed hdocument⟩

/-- An integer of 54 bits comes back as the double next to it, which is built like the first. -/
theorem normal_form_of_long_integer :
    (Json.array [.integer 9007199254740993]).WellFormed ∧
    (ofJson (ofJson (.array [.integer 9007199254740993]) : Value Empty).toJson :
      Value Empty).structuralEq (ofJson (.array [.integer 9007199254740993])) = true := by
  have hdocument : (Json.array [.integer 9007199254740993]).WellFormed :=
    .array (List.forall_mem_singleton.2 (.integer (by decide) (by decide)))
  exact ⟨hdocument, (normal_form Empty).2 _ hdocument⟩

end Value

end Formula
