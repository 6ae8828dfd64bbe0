import Formula.Proofs.Binary64.Number
import Formula.Proofs.Value.Kinds

/-!
# Values that are built alike compare equal

The comparison of the language and the comparison of how values are built are two recursions over
the same values. Where the second says yes the first answers equal,
`structurally_equal_compares_equal`, as long as host objects that are built alike do not put one of
them first. A value without not-a-number is built like itself.
-/

namespace Formula

namespace Binary64

/-- Doubles that are equal as numbers have that order. -/
theorem order_of_num_eq {x y : Binary64} (h : x.numEq y = true) : x.order y = some .eq := by
  simpa [numEq] using h

/-- A number is equal to itself. -/
theorem num_eq_self {x : Binary64} (h : x.isNaN = false) : x.numEq x = true := by
  rw [numEq, order_self h]
  rfl

end Binary64

namespace Value

variable {H : Type}

mutual
/-- The numbers in a value. -/
def numbers : Value H → List Binary64
  | .number n => [n]
  | .sequence items => itemNumbers items
  | .record _ fields => fieldNumbers fields
  | _ => []

/-- The numbers in items. -/
def itemNumbers : List (Value H) → List Binary64
  | [] => []
  | item :: rest => item.numbers ++ itemNumbers rest

/-- The numbers in fields. -/
def fieldNumbers : List (String × Value H) → List Binary64
  | [] => []
  | (_, value) :: rest => value.numbers ++ fieldNumbers rest
end

/-- Whether not-a-number is not among some numbers. -/
def NoNaN (numbers : List Binary64) : Prop :=
  ∀ n ∈ numbers, n.isNaN = false

/-- Not-a-number is not in a list if it is in neither part. -/
theorem no_nan_append {ns ms : List Binary64} : NoNaN (ns ++ ms) ↔ NoNaN ns ∧ NoNaN ms :=
  List.forall_mem_append

variable [HostObject H]

/-- Beside an object that it says it is built like, an object answers nothing or equal, and so does
the other one beside it. -/
def TiedIfAlike (a b : Value H) : Prop :=
  a.claimsAlike b = true →
    (∀ o, a.hostOrder? b = some o → o = .eq) ∧ (∀ o, b.hostOrder? a = some o → o = .eq)

/-- No object of one list comes before or after one of the other that it says it is built like. -/
def AllTiedIfAlike (as bs : List (Value H)) : Prop :=
  ∀ a ∈ as, ∀ b ∈ bs, TiedIfAlike a b

/-- If two lists tie, so do their parts before and behind. -/
theorem AllTiedIfAlike.of_append {as as' bs bs' : List (Value H)}
    (h : AllTiedIfAlike (as ++ as') (bs ++ bs')) : AllTiedIfAlike as bs ∧ AllTiedIfAlike as' bs' :=
  ⟨fun a ha b hb => h a (List.mem_append_left as' ha) b (List.mem_append_left bs' hb),
    fun a ha b hb => h a (List.mem_append_right as ha) b (List.mem_append_right bs hb)⟩

/-- Items that are built alike are as many. -/
theorem length_eq_of_items_eq {as bs : List (Value H)} (h : itemsEq as bs = true) :
    as.length = bs.length := by
  induction as generalizing bs with
  | nil =>
      cases bs with
      | nil => rfl
      | cons => exact nomatch h
  | cons a as ih =>
      cases bs with
      | nil => exact nomatch h
      | cons b bs =>
          rw [itemsEq, Bool.and_eq_true] at h
          exact congrArg (· + 1) (ih h.2)

/-- What is built like a numeric value has an equal numeric view. -/
theorem order_of_alike_numeric {x y : Value H} (hx : x.isNumeric = true)
    (h : x.structuralEq y = true) :
    y.isNumeric = true ∧ x.toNumber.order y.toNumber = some .eq := by
  cases x with
  | number n =>
      cases y with
      | number m => exact ⟨rfl, Binary64.order_of_num_eq h⟩
      | _ => exact nomatch h
  | boolean b =>
      cases y with
      | boolean c =>
          obtain rfl : b = c := of_decide_eq_true h
          refine ⟨rfl, Binary64.order_self ?_⟩
          rw [toNumber]
          split
          · exact Binary64.is_nan_of_nat 1
          · exact Binary64.is_nan_of_nat 0
      | _ => exact nomatch h
  | dateTime t =>
      cases y with
      | dateTime u =>
          obtain rfl : t = u := of_decide_eq_true h
          exact ⟨rfl, Binary64.order_self t.is_nan_epoch_milliseconds⟩
      | _ => exact nomatch h
  | duration d =>
      cases y with
      | duration e =>
          obtain rfl : d = e := of_decide_eq_true h
          exact ⟨rfl, Binary64.order_self d.is_nan_total_milliseconds⟩
      | _ => exact nomatch h
  | _ => exact nomatch hx

/-- What a host object is built like, unless it is the same object, it says it is built like. -/
theorem claims_alike_of_structural_eq {i : Nat} {a : H} {y : Value H}
    (hne : ¬(host i a).identical y = true) (h : (host i a).structuralEq y = true) :
    (host i a).claimsAlike y = true := by
  cases y with
  | host j b => exact (Bool.or_eq_true_iff.1 h).resolve_left hne
  | record j fields => exact h
  | _ => exact nomatch h

/-- A host object and what it is built like, which is no number, are equal where neither has an order
of its own. -/
theorem numeric_order_of_alike_host {i : Nat} {a : H} {y : Value H}
    (h : (host i a).structuralEq y = true) : (host i a).numericOrder? y = some .eq := by
  cases y with
  | number => exact nomatch h
  | _ => exact if_pos h

/-- A host object and what it is built like, which is another object, compare equal. -/
theorem scalar_order_of_alike_host {i : Nat} {a : H} {y : Value H}
    (htied : TiedIfAlike (host i a) y) (hne : ¬(host i a).identical y = true)
    (h : (host i a).structuralEq y = true) : (host i a).scalarOrder? y = some .eq := by
  obtain ⟨hleft, hright⟩ := htied (claims_alike_of_structural_eq hne h)
  rw [scalarOrder?, numeric_order_of_alike_host h, naturalOrder?]
  · cases ho : (host i a).hostOrder? y with
    | some o => exact congrArg some (hleft o ho)
    | none =>
        cases hp : y.hostOrder? (host i a) with
        | some p =>
            rw [hright p hp]
            rfl
        | none => rfl
  · simp

/-- Values that are built alike compare equal if they are no sequences and no host objects. -/
theorem compare_of_alike_scalars {x y : Value H} (hsequence : ∀ items, x ≠ .sequence items)
    (hhost : ∀ identity object, x ≠ .host identity object) (h : x.structuralEq y = true) :
    x.compare? y = some .eq := by
  cases x with
  | number | boolean | dateTime | duration =>
      obtain ⟨hy, horder⟩ := order_of_alike_numeric rfl h
      rwa [compare_of_numeric rfl hy]
  | null =>
      cases y with
      | null => rfl
      | _ => exact nomatch h
  | string s =>
      cases y with
      | string t =>
          obtain rfl : s = t := of_decide_eq_true h
          rw [compare_strings]
          exact congrArg some Std.ReflCmp.compare_self
      | _ => exact nomatch h
  | record i as =>
      cases y with
      | record j bs =>
          rw [compare_of_not_sequences (by simp)]
          split
          · rfl
          · exact if_pos h
      | _ => exact nomatch h
  | sequence items => exact absurd rfl (hsequence items)
  | host identity object => exact absurd rfl (hhost identity object)

mutual
/-- Values that are built alike compare equal. -/
theorem compare_of_structural_eq (x y : Value H) (hobjects : AllTiedIfAlike x.objects y.objects)
    (h : x.structuralEq y = true) : x.compare? y = some .eq := by
  cases x with
  | sequence as =>
      cases y with
      | sequence bs =>
          rw [compare?, if_pos (length_eq_of_items_eq h)]
          exact compare_items_of_items_eq as bs hobjects h
      | _ => exact nomatch h
  | host i a =>
      cases y with
      | host j b | record j b =>
          rw [compare_of_not_sequences (by simp)]
          split
          · rfl
          · rename_i hidentical
            have htied := hobjects _ List.mem_cons_self _ List.mem_cons_self
            exact scalar_order_of_alike_host htied hidentical h
      | _ => exact nomatch h
  | _ => exact compare_of_alike_scalars (by simp) (by simp) h

/-- Items that are built alike compare equal. -/
theorem compare_items_of_items_eq (as bs : List (Value H))
    (hobjects : AllTiedIfAlike (itemObjects as) (itemObjects bs)) (h : itemsEq as bs = true) :
    compareItems? as bs = some .eq := by
  match as, bs with
  | [], [] => rfl
  | [], _ :: _ | _ :: _, [] => exact nomatch h
  | a :: as, b :: bs =>
      rw [itemsEq, Bool.and_eq_true] at h
      obtain ⟨hfirst, hothers⟩ := hobjects.of_append
      have hitem := compare_of_structural_eq a b hfirst h.1
      have hrest := compare_items_of_items_eq as bs hothers h.2
      rw [compareItems?, hitem]
      exact hrest
end

mutual
/-- A value without not-a-number is built like itself. -/
theorem structural_eq_self (x : Value H) (h : NoNaN x.numbers) : x.structuralEq x = true := by
  cases x with
  | null => rfl
  | number n => exact Binary64.num_eq_self (h n List.mem_cons_self)
  | boolean | string | dateTime | duration => exact decide_eq_true rfl
  | sequence items => exact items_eq_self items h
  | record identity fields =>
      rw [structuralEq, fields_eq_self fields h, Bool.or_true]
  | host identity object => simp [structuralEq]

/-- Items without not-a-number are built like themselves. -/
theorem items_eq_self (items : List (Value H)) (h : NoNaN (itemNumbers items)) :
    itemsEq items items = true := by
  match items with
  | [] => rfl
  | item :: rest =>
      obtain ⟨hitem, hrest⟩ := no_nan_append.1 h
      rw [itemsEq, structural_eq_self item hitem, items_eq_self rest hrest]
      rfl

/-- Fields without not-a-number are built like themselves. -/
theorem fields_eq_self (fields : List (String × Value H)) (h : NoNaN (fieldNumbers fields)) :
    fieldsEq fields fields = true := by
  match fields with
  | [] => rfl
  | (key, value) :: rest =>
      obtain ⟨hvalue, hrest⟩ := no_nan_append.1 h
      simp [fieldsEq, structural_eq_self value hvalue, fields_eq_self rest hrest]
end

mutual
/-- A value without not-a-number compares equal to itself. -/
theorem compare_self (x : Value H) (h : NoNaN x.numbers) : x.compare? x = some .eq := by
  cases x with
  | sequence items =>
      rw [compare?, if_pos rfl]
      exact compare_items_self items h
  | host identity object =>
      rw [compare_of_not_sequences (by simp)]
      exact if_pos (decide_eq_true rfl)
  | _ => exact compare_of_alike_scalars (by simp) (by simp) (structural_eq_self _ h)

/-- Items without not-a-number compare equal to themselves. -/
theorem compare_items_self (items : List (Value H)) (h : NoNaN (itemNumbers items)) :
    compareItems? items items = some .eq := by
  match items with
  | [] => rfl
  | item :: rest =>
      obtain ⟨hitem, hrest⟩ := no_nan_append.1 h
      rw [compareItems?, compare_self item hitem]
      exact compare_items_self rest hrest
end

/-- Values that are built alike are equal in the language, if the host objects in them tie when they
are built alike; and a value compares equal to itself unless there is not-a-number in it. -/
theorem structurally_equal_compares_equal (x y : Value H) :
    (AllTiedIfAlike x.objects y.objects → x.structuralEq y = true →
      x.compare? y = some .eq ∧ x.looseEq y = true) ∧
    (NoNaN x.numbers → x.compare? x = some .eq) := by
  refine ⟨fun hobjects h => ?_, compare_self x⟩
  have hcompare := compare_of_structural_eq x y hobjects h
  refine ⟨hcompare, ?_⟩
  rw [looseEq, hcompare]
  rfl

/-- A zero, a record and an amount of money in a sequence. -/
def moneyRow (negative : Bool) (identity : Nat) : Value Amount :=
  .sequence [.number (.zero negative), .record none [("a", .null)], .host identity ⟨500⟩]

/-- Two rows whose zeros differ in their signs and whose amounts are two objects. -/
theorem structurally_equal_compares_equal_rows :
    AllTiedIfAlike (moneyRow false 0).objects (moneyRow true 1).objects ∧
    (moneyRow false 0).structuralEq (moneyRow true 1) = true ∧
    NoNaN (moneyRow false 0).numbers ∧
    (moneyRow false 0).compare? (moneyRow true 1) = some .eq ∧
    (moneyRow false 0).looseEq (moneyRow true 1) = true ∧
    (moneyRow false 0).compare? (moneyRow false 0) = some .eq := by
  have htied : AllTiedIfAlike (moneyRow false 0).objects (moneyRow true 1).objects := by
    intro a ha b hb hclaim
    simp only [moneyRow, objects, itemObjects, fieldObjects, List.cons_append, List.nil_append,
      List.mem_cons, List.not_mem_nil, or_false] at ha hb
    -- Only the amounts say of each other that they are built alike.
    rcases ha with rfl | rfl <;> rcases hb with rfl | rfl <;> cases hclaim
    exact ⟨fun o ho => (Option.some.inj ho).symm, fun o ho => (Option.some.inj ho).symm⟩
  have halike : (moneyRow false 0).structuralEq (moneyRow true 1) = true := by decide +kernel
  have hnan : NoNaN (moneyRow false 0).numbers := by
    intro n hn
    obtain rfl : n = .zero false := by
      simpa [moneyRow, numbers, itemNumbers, fieldNumbers] using hn
    rfl
  obtain ⟨hequal, hself⟩ := structurally_equal_compares_equal (moneyRow false 0) (moneyRow true 1)
  obtain ⟨hcompare, hloose⟩ := hequal htied halike
  exact ⟨htied, halike, hnan, hcompare, hloose, hself hnan⟩

end Value

end Formula
