import Formula.Value.Operation
import Mathlib

/-!
# The comparison of values

Comparing two values from either side gives reverse answers, `compare_swap`, as long as the host
objects in them answer each other alike. The comparison operators read their answers off this one
comparison, so they agree with each other, `comparisons_agree`. The condition is on every two
`objects` of the values, records among them, since a host object may be asked about a record.
-/

namespace Formula

/-- The order of two doubles from the other side. -/
theorem Binary64.order_swap (x y : Binary64) : y.order x = (x.order y).map Ordering.swap := by
  unfold order
  cases x.position with
  | none => cases y.position <;> rfl
  | some a =>
      cases y.position with
      | none => rfl
      | some b => exact congrArg some Std.OrientedCmp.eq_swap

namespace Value

variable {H : Type}

mutual
/-- The records and host objects in a value. -/
def objects : Value H → List (Value H)
  | .sequence items => itemObjects items
  | .record identity fields => .record identity fields :: fieldObjects fields
  | .host identity object => [.host identity object]
  | _ => []

/-- The records and host objects in items. -/
def itemObjects : List (Value H) → List (Value H)
  | [] => []
  | item :: rest => item.objects ++ itemObjects rest

/-- The records and host objects in fields. -/
def fieldObjects : List (String × Value H) → List (Value H)
  | [] => []
  | (_, value) :: rest => value.objects ++ fieldObjects rest
end

/-- Two values are one shared object from either side. -/
theorem identical_comm (x y : Value H) : y.identical x = x.identical y := by
  cases x with
  | record i =>
      cases y with
      | record j =>
          cases i <;> cases j <;> first | rfl | exact decide_eq_decide.2 eq_comm
      | _ => cases i <;> rfl
  | host i =>
      cases y with
      | host j => exact decide_eq_decide.2 eq_comm
      | record j => cases j <;> rfl
      | _ => rfl
  | _ =>
      cases y with
      | record j => cases j <;> rfl
      | _ => rfl

/-- The comparable form holds the same objects. -/
theorem objects_comparable_form (x : Value H) : x.comparableForm.objects = x.objects := by
  cases x <;> rfl

variable [HostObject H]

/-- Whether an object says of itself that it is built like another one. Host objects do; whether
records are built alike is for their fields to say. -/
def claimsAlike : Value H → Value H → Bool
  | .host _ object, other => HostObject.structuralEq object other
  | _, _ => false

/-- Two objects answer each other alike: their orders are each other's reverse if both give one,
and either says that it is built like the other if the other does. -/
structure Reciprocal (a b : Value H) : Prop where
  natural_order {o p : Ordering} : a.hostOrder? b = some o → b.hostOrder? a = some p → p = o.swap
  structural_eq : b.claimsAlike a = a.claimsAlike b

/-- Every object of one list answers every one of the other alike. -/
def AllReciprocal (as bs : List (Value H)) : Prop :=
  ∀ a ∈ as, ∀ b ∈ bs, Reciprocal a b

/-- Parts of two lists answer each other as the lists do. -/
theorem AllReciprocal.mono {as as' bs bs' : List (Value H)} (h : AllReciprocal as bs)
    (has : as' ⊆ as) (hbs : bs' ⊆ bs) : AllReciprocal as' bs' :=
  fun a ha b hb => h a (has ha) b (hbs hb)

/-- If two lists answer each other alike, so do their parts before and behind. -/
theorem AllReciprocal.of_append {as as' bs bs' : List (Value H)}
    (h : AllReciprocal (as ++ as') (bs ++ bs')) : AllReciprocal as bs ∧ AllReciprocal as' bs' :=
  ⟨h.mono (List.subset_append_left as as') (List.subset_append_left bs bs'),
    h.mono (List.subset_append_right as as') (List.subset_append_right bs bs')⟩

mutual
/-- Two values are built alike from either side. -/
theorem structural_eq_comm (x y : Value H) (h : AllReciprocal x.objects y.objects) :
    y.structuralEq x = x.structuralEq y := by
  cases x with
  | sequence as =>
      cases y with
      | sequence bs => exact items_eq_comm as bs h
      | _ => rfl
  | record i as =>
      cases y with
      | record j bs =>
          have hfields := fields_eq_comm as bs
            (h.mono (List.subset_cons_self _ _) (List.subset_cons_self _ _))
          simp only [structuralEq, hfields]
          cases i <;> cases j <;> simp [eq_comm]
      -- The record declines, so the host object has to decline too.
      | host j b => exact (h _ List.mem_cons_self _ List.mem_cons_self).structural_eq
      | _ => rfl
  | host i a =>
      cases y with
      | host j b =>
          have halike := (h _ List.mem_cons_self _ List.mem_cons_self).structural_eq
          simp only [claimsAlike] at halike
          simp only [structuralEq, halike, eq_comm]
      | record j bs => exact (h _ List.mem_cons_self _ List.mem_cons_self).structural_eq
      | _ => rfl
  | number n =>
      cases y with
      | number m =>
          simp only [structuralEq, Binary64.numEq, Binary64.order_swap n m]
          cases n.order m with
          | none => rfl
          | some o => cases o <;> rfl
      | _ => rfl
  | null => cases y <;> rfl
  | boolean | string | dateTime | duration =>
      cases y <;> simp [structuralEq, eq_comm]

/-- Items are built alike from either side. -/
theorem items_eq_comm (as bs : List (Value H))
    (h : AllReciprocal (itemObjects as) (itemObjects bs)) : itemsEq bs as = itemsEq as bs := by
  match as, bs with
  | [], [] | [], _ :: _ | _ :: _, [] => rfl
  | a :: as, b :: bs =>
      obtain ⟨hfirst, hothers⟩ := h.of_append
      have hitem := structural_eq_comm a b hfirst
      have hrest := items_eq_comm as bs hothers
      rw [itemsEq, itemsEq, hitem, hrest]

/-- Fields are built alike from either side. -/
theorem fields_eq_comm (as bs : List (String × Value H))
    (h : AllReciprocal (fieldObjects as) (fieldObjects bs)) : fieldsEq bs as = fieldsEq as bs := by
  match as, bs with
  | [], [] | [], _ :: _ | _ :: _, [] => rfl
  | (i, a) :: as, (j, b) :: bs =>
      obtain ⟨hfirst, hothers⟩ := h.of_append
      have hvalue := structural_eq_comm a b hfirst
      have hrest := fields_eq_comm as bs hothers
      simp only [fieldsEq, hvalue, hrest, eq_comm]
end

/-- A value that gives itself an order is a host object, so one of its own objects. -/
theorem mem_objects_of_host_order {x y : Value H} {o : Ordering} (h : x.hostOrder? y = some o) :
    x ∈ x.objects := by
  cases x with
  | host => exact List.mem_cons_self
  | _ => exact nomatch h

/-- Host objects give reverse orders from either side, whichever of them has an answer. -/
theorem natural_order_swap (x y : Value H) (h : AllReciprocal x.objects y.objects) :
    y.naturalOrder? x = (x.naturalOrder? y).map Ordering.swap := by
  rw [naturalOrder?, naturalOrder?]
  cases ho : x.hostOrder? y with
  | none => cases y.hostOrder? x <;> simp
  | some o =>
      cases hp : y.hostOrder? x with
      | none => simp
      | some p =>
          have hobjects := h x (mem_objects_of_host_order ho) y (mem_objects_of_host_order hp)
          simp [hobjects.natural_order ho hp]

/-- Numbers, numeric text and values that are at most equal give reverse orders from either side. -/
theorem numeric_order_swap (x y : Value H) (h : AllReciprocal x.objects y.objects) :
    y.numericOrder? x = (x.numericOrder? y).map Ordering.swap := by
  have hstructural : (if y.structuralEq x then some Ordering.eq else none) =
      (if x.structuralEq y then some Ordering.eq else none).map Ordering.swap := by
    rw [structural_eq_comm x y h]
    split <;> rfl
  cases x with
  | number n =>
      cases y with
      | number m => exact n.order_swap m
      | string s =>
          simp only [numericOrder?]
          cases readNumber? s with
          | none => rfl
          | some m => exact n.order_swap m
      | _ => rfl
  | string s =>
      cases y with
      | number m =>
          simp only [numericOrder?]
          cases readNumber? s with
          | none => rfl
          | some n => exact n.order_swap m
      | _ => exact hstructural
  | _ =>
      cases y with
      | number m => rfl
      | _ => exact hstructural

/-- Values in comparable form give reverse orders from either side. -/
theorem scalar_order_swap (x y : Value H) (h : AllReciprocal x.objects y.objects) :
    y.scalarOrder? x = (x.scalarOrder? y).map Ordering.swap := by
  by_cases hstrings : ∃ s t, x = .string s ∧ y = .string t
  · obtain ⟨s, t, rfl, rfl⟩ := hstrings
    exact congrArg some Std.OrientedCmp.eq_swap
  · rw [scalarOrder?, scalarOrder?, natural_order_swap x y h, numeric_order_swap x y h]
    · cases x.naturalOrder? y <;> simp
    · intro s t hx hy
      exact hstrings ⟨s, t, hx, hy⟩
    · intro s t hy hx
      exact hstrings ⟨t, s, hx, hy⟩

/-- Values that are not both sequences are compared in comparable form. -/
theorem compare_of_not_sequences {x y : Value H}
    (h : ¬∃ as bs, x = .sequence as ∧ y = .sequence bs) :
    x.compare? y =
      if x.identical y then some .eq else x.comparableForm.scalarOrder? y.comparableForm := by
  rw [compare?]
  intro as bs hx hy
  exact h ⟨as, bs, hx, hy⟩

mutual
/-- Two values give reverse orders from either side, or neither gives one. -/
theorem compare_swap (x y : Value H) (h : AllReciprocal x.objects y.objects) :
    y.compare? x = (x.compare? y).map Ordering.swap := by
  by_cases hsequences : ∃ as bs, x = .sequence as ∧ y = .sequence bs
  · obtain ⟨as, bs, rfl, rfl⟩ := hsequences
    rw [compare?, compare?]
    by_cases hlength : as.length = bs.length
    · rw [if_pos hlength, if_pos hlength.symm]
      exact compare_items_swap as bs h
    · rw [if_neg hlength, if_neg (Ne.symm hlength)]
      exact congrArg some Std.OrientedCmp.eq_swap
  · have hsequences' : ¬∃ as bs, y = .sequence as ∧ x = .sequence bs := by
      rintro ⟨as, bs, hy, hx⟩
      exact hsequences ⟨bs, as, hx, hy⟩
    have hforms := scalar_order_swap x.comparableForm y.comparableForm
      (by rwa [objects_comparable_form, objects_comparable_form])
    rw [compare_of_not_sequences hsequences, compare_of_not_sequences hsequences',
      identical_comm x y, hforms]
    split <;> rfl

/-- Items give reverse orders from either side. -/
theorem compare_items_swap (as bs : List (Value H))
    (h : AllReciprocal (itemObjects as) (itemObjects bs)) :
    compareItems? bs as = (compareItems? as bs).map Ordering.swap := by
  match as, bs with
  | [], [] | [], _ :: _ | _ :: _, [] => rfl
  | a :: as, b :: bs =>
      obtain ⟨hfirst, hothers⟩ := h.of_append
      have hitem := compare_swap a b hfirst
      have hrest := compare_items_swap as bs hothers
      rw [compareItems?, compareItems?, hitem, hrest]
      cases a.compare? b with
      | none => rfl
      | some o => cases o <;> rfl
end

/-- Whether an operator on two values is true. -/
def Holds (op : BinaryOp) (x y : Value H) : Prop :=
  binary op x y = .ok (.boolean true)

/-- Whether an operator on two values is false. -/
def Fails (op : BinaryOp) (x y : Value H) : Prop :=
  binary op x y = .ok (.boolean false)

/-- The relations. -/
def relations : List BinaryOp :=
  [.lessThan, .lessEqual, .greaterThan, .greaterEqual]

/-- The comparison operators. -/
def comparisons : List BinaryOp :=
  .equal :: .notEqual :: relations

section

variable {x y : Value H}

/-- A relation is true if the values have an order that it holds for. -/
theorem relation_eq_true {holds : Ordering → Bool} :
    relation holds x y = .ok (.boolean true) ↔ ∃ o, x.compare? y = some o ∧ holds o = true := by
  simp [relation, Option.any_eq_true]

theorem holds_equal : Holds .equal x y ↔ x.compare? y = some .eq := by
  simp [Holds, binary, looseEq]

theorem holds_not_equal : Holds .notEqual x y ↔ x.compare? y ≠ some .eq := by
  simp [Holds, binary, looseEq]

theorem holds_less_than : Holds .lessThan x y ↔ x.compare? y = some .lt := by
  simp [Holds, binary, relation_eq_true]

theorem holds_greater_than : Holds .greaterThan x y ↔ x.compare? y = some .gt := by
  simp [Holds, binary, relation_eq_true]

theorem holds_less_equal :
    Holds .lessEqual x y ↔ x.compare? y = some .lt ∨ x.compare? y = some .eq := by
  simp only [Holds, binary, relation_eq_true]
  cases x.compare? y with
  | none => simp
  | some o => cases o <;> simp

theorem holds_greater_equal :
    Holds .greaterEqual x y ↔ x.compare? y = some .gt ∨ x.compare? y = some .eq := by
  simp only [Holds, binary, relation_eq_true]
  cases x.compare? y with
  | none => simp
  | some o => cases o <;> simp

/-- A comparison is false of two values if it is not true of them. -/
theorem fails_iff_not_holds {op : BinaryOp} (hop : op ∈ comparisons) :
    Fails op x y ↔ ¬Holds op x y := by
  have hboolean : ∃ b, binary op x y = .ok (.boolean b) := by
    simp only [comparisons, relations, List.mem_cons, List.not_mem_nil, or_false] at hop
    rcases hop with rfl | rfl | rfl | rfl | rfl | rfl <;> exact ⟨_, rfl⟩
  obtain ⟨b, hb⟩ := hboolean
  simp [Holds, Fails, hb]

/-- All relations are false exactly of the values without an order. -/
theorem relations_fail_iff : (∀ op ∈ relations, Fails op x y) ↔ x.compare? y = none := by
  have hfails (op : BinaryOp) (hop : op ∈ relations) : Fails op x y ↔ ¬Holds op x y :=
    fails_iff_not_holds (List.mem_cons_of_mem _ (List.mem_cons_of_mem _ hop))
  rw [forall₂_congr hfails]
  simp only [relations, List.forall_mem_cons, List.not_mem_nil, holds_less_than, holds_less_equal,
    holds_greater_than, holds_greater_equal]
  cases x.compare? y with
  | none => simp
  | some o => cases o <;> simp

end

/-- Comparing two values from either side gives reverse orders or none, and the comparison
operators, each of which is true or false of every two values, agree with it and with each other. -/
theorem comparisons_agree (x y : Value H) (h : AllReciprocal x.objects y.objects) :
    y.compare? x = (x.compare? y).map Ordering.swap ∧
    (∀ op ∈ comparisons, Holds op x y ∨ Fails op x y) ∧
    (Holds .lessThan x y ↔ Holds .greaterThan y x) ∧
    (Holds .lessEqual x y ↔ Holds .greaterEqual y x) ∧
    (Holds .equal x y ↔ Holds .equal y x) ∧
    (Holds .notEqual x y ↔ Holds .notEqual y x) ∧
    (Holds .notEqual x y ↔ Fails .equal x y) ∧
    ¬(Holds .lessThan x y ∧ Holds .equal x y) ∧
    ¬(Holds .lessThan x y ∧ Holds .greaterThan x y) ∧
    ¬(Holds .equal x y ∧ Holds .greaterThan x y) ∧
    (Holds .lessEqual x y ↔ Holds .lessThan x y ∨ Holds .equal x y) ∧
    ((∀ op ∈ relations, Fails op x y) ↔ x.compare? y = none) := by
  have hswap := compare_swap x y h
  refine ⟨hswap, ?_, ?_⟩
  · intro op hop
    rw [fails_iff_not_holds hop]
    exact Classical.em _
  · rw [relations_fail_iff, fails_iff_not_holds List.mem_cons_self]
    simp only [holds_equal, holds_not_equal, holds_less_than, holds_less_equal, holds_greater_than,
      holds_greater_equal, hswap]
    -- What is left is about the one order, whichever it is.
    cases x.compare? y with
    | none => simp
    | some o => cases o <;> simp

/-- An amount of money in cents. Amounts are host objects with an order. -/
structure Amount where
  cents : Int
  deriving DecidableEq

instance : HostObject Amount where
  State := Unit
  typeName _ := "amount"
  naturalOrder? amount
    | .host _ other => some (compare amount.cents other.cents)
    | _ => none
  structuralEq amount
    | .host _ other => amount = other
    | _ => false

/-- A record, a number and an amount of money in a sequence. -/
def priceRow (quantity : Value Amount) (identity : Nat) (cents : Int) : Value Amount :=
  .sequence [.record none [("unit", .string "kg")], quantity, .host identity ⟨cents⟩]

/-- Two rows with equal records, a number beside numeric text and two amounts, compared from either
side. -/
theorem comparisons_agree_amounts :
    AllReciprocal (priceRow (.number 1) 0 500).objects (priceRow (.string "1") 1 700).objects ∧
    Holds .greaterThan (priceRow (.string "1") 1 700) (priceRow (.number 1) 0 500) := by
  have hreciprocal :
      AllReciprocal (priceRow (.number 1) 0 500).objects (priceRow (.string "1") 1 700).objects := by
    intro a ha b hb
    simp only [priceRow, objects, itemObjects, fieldObjects, List.cons_append, List.nil_append,
      List.mem_cons, List.not_mem_nil, or_false] at ha hb
    rcases ha with rfl | rfl <;> rcases hb with rfl | rfl <;>
      refine ⟨fun ho hp => ?_, rfl⟩ <;> cases ho
    -- Only the amounts answer, and only beside each other.
    cases hp
    rfl
  have hless : Holds .lessThan (priceRow (.number 1) 0 500) (priceRow (.string "1") 1 700) := by
    rw [holds_less_than]
    decide +kernel
  exact ⟨hreciprocal, (comparisons_agree _ _ hreciprocal).2.2.1.1 hless⟩

end Value

end Formula
