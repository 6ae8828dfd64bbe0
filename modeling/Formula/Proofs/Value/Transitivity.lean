import Formula.Proofs.Value.Kinds

/-!
# The comparison is transitive

Among values without objects in which text and numbers do not both occur, the comparison is
transitive, `compare_trans`: it is so on numbers, on texts and on lengths, and what compares by
parts one after the other inherits it from the parts. Beside numbers, text compares as the number it
spells and beside text by its characters, so without that condition there are cycles.
-/

namespace Formula

/-- Three answers of a comparison fit together: if the first two are less or equal, the third is
equal when both are, and less otherwise. -/
def Chained (xy yz xz : Option Ordering) : Prop :=
  ∀ o p, xy = some o → yz = some p → o.isLE = true → p.isLE = true → xz = some (o.then p)

/-- The answer of a comparison by a first part and then by the rest. -/
def thenRest (first rest : Option Ordering) : Option Ordering :=
  match first with
  | some .eq => rest
  | other => other

/-- Answers of a transitive order fit together. -/
theorem chained_compare {α : Type} [Ord α] [Std.TransOrd α] (a b c : α) :
    Chained (some (compare a b)) (some (compare b c)) (some (compare a c)) := by
  rintro o p hab hbc ho hp
  obtain rfl := Option.some.inj hab
  obtain rfl := Option.some.inj hbc
  refine congrArg some ?_
  cases hfirst : compare a b with
  | gt => simp [hfirst] at ho
  | lt => exact Std.TransCmp.lt_of_lt_of_isLE hfirst hp
  | eq => exact Std.TransCmp.congr_left hfirst

/-- Equal answers fit together. -/
theorem chained_equal : Chained (some .eq) (some .eq) (some .eq) := by
  rintro o p ho hp - -
  cases ho
  cases hp
  rfl

/-- Answers by parts fit together if those of the first parts do and, where these are equal, those
of the rests. -/
theorem Chained.then_rest {xy yz xz xy' yz' xz' : Option Ordering} (hfirst : Chained xy yz xz)
    (hrest : xy = some .eq → yz = some .eq → Chained xy' yz' xz') :
    Chained (thenRest xy xy') (thenRest yz yz') (thenRest xz xz') := by
  intro o p hxy hyz ho hp
  cases xy with
  | none => exact nomatch hxy
  | some a =>
      cases yz with
      | none => exact nomatch hyz
      | some b =>
          have hxz := hfirst a b rfl rfl
          cases a with
          | gt =>
              obtain rfl := Option.some.inj hxy
              exact nomatch ho
          | lt =>
              obtain rfl := Option.some.inj hxy
              cases b with
              | gt =>
                  obtain rfl := Option.some.inj hyz
                  exact nomatch hp
              | lt | eq =>
                  rw [hxz rfl rfl]
                  rfl
          | eq =>
              cases b with
              | gt =>
                  obtain rfl := Option.some.inj hyz
                  exact nomatch hp
              | lt =>
                  obtain rfl := Option.some.inj hyz
                  rw [hxz rfl rfl]
                  cases o with
                  | gt => exact nomatch ho
                  | lt | eq => rfl
              | eq =>
                  rw [hxz rfl rfl]
                  exact hrest rfl rfl o p hxy hyz ho hp

/-- The orders of three doubles fit together. -/
theorem Binary64.chained_order (x y z : Binary64) :
    Chained (x.order y) (y.order z) (x.order z) := by
  unfold order
  cases x.position with
  | none => exact nofun
  | some a =>
      cases y.position with
      | none => exact nofun
      | some b =>
          cases z.position with
          | none => exact nofun
          | some c => exact chained_compare a b c

namespace Value

variable {H : Type}

mutual
/-- The values that a value is made of: the leaves of its items if it is a sequence, and otherwise
itself. -/
def leaves : Value H → List (Value H)
  | .sequence items => itemLeaves items
  | x => [x]

/-- The leaves of items. -/
def itemLeaves : List (Value H) → List (Value H)
  | [] => []
  | item :: rest => item.leaves ++ itemLeaves rest
end

/-- Among some values there is no object, and text and numbers do not both occur. -/
structure Unmixed (values : List (Value H)) : Prop where
  no_object {v : Value H} : v ∈ values → v.isObject = false
  no_text_beside_numeric {v w : Value H} : v ∈ values → w ∈ values →
    v.isText = true → w.isNumeric = false

/-- A value that is no sequence is a leaf of itself. -/
theorem mem_leaves {x : Value H} (h : ∀ items, x ≠ .sequence items) : x ∈ x.leaves := by
  cases x with
  | sequence items => exact absurd rfl (h items)
  | _ => exact List.mem_cons_self

/-- Two values of kinds that are compared. -/
inductive SameKind : Value H → Value H → Prop where
  | nulls : SameKind .null .null
  | numerics {x y} (hx : x.isNumeric = true) (hy : y.isNumeric = true) : SameKind x y
  | texts (s t) : SameKind (.string s) (.string t)
  | sequences (as bs) : SameKind (.sequence as) (.sequence bs)

/-- What is of the same kind as a sequence is one. -/
theorem SameKind.exists_sequence {as : List (Value H)} {y : Value H}
    (h : SameKind (.sequence as) y) : ∃ bs, y = .sequence bs := by
  cases h with
  | sequences _ bs => exact ⟨bs, rfl⟩
  | numerics hx => exact nomatch hx

variable [HostObject H]

section

variable {values : List (Value H)}

/-- Values that have an order are of the same kind, if they are unmixed. -/
theorem same_kind_of_compare (h : Unmixed values) {x y : Value H} (hx : x.leaves ⊆ values)
    (hy : y.leaves ⊆ values) {o : Ordering} (ho : x.compare? y = some o) : SameKind x y := by
  cases x with
  | null =>
      cases y with
      | null => exact .nulls
      | record | host => exact nomatch h.no_object (hy (mem_leaves (by simp)))
      | _ => exact nomatch ho
  | number | boolean | dateTime | duration =>
      cases y with
      | number | boolean | dateTime | duration => exact .numerics rfl rfl
      | string =>
          exact nomatch h.no_text_beside_numeric (hy (mem_leaves (by simp)))
            (hx (mem_leaves (by simp))) rfl
      | record | host => exact nomatch h.no_object (hy (mem_leaves (by simp)))
      | _ => exact nomatch ho
  | string =>
      cases y with
      | string => exact .texts _ _
      | number | boolean | dateTime | duration =>
          exact nomatch h.no_text_beside_numeric (hx (mem_leaves (by simp)))
            (hy (mem_leaves (by simp))) rfl
      | record | host => exact nomatch h.no_object (hy (mem_leaves (by simp)))
      | _ => exact nomatch ho
  | sequence =>
      cases y with
      | sequence => exact .sequences _ _
      | record | host => exact nomatch h.no_object (hy (mem_leaves (by simp)))
      | _ => exact nomatch ho
  | record | host => exact nomatch h.no_object (hx (mem_leaves (by simp)))

/-- Sequences compare by their lengths and then by their items. -/
theorem compare_sequences (as bs : List (Value H)) :
    (sequence as).compare? (.sequence bs) =
      thenRest (some (compare as.length bs.length)) (compareItems? as bs) := by
  rw [compare?]
  split
  · rename_i hlength
    rw [Std.LawfulEqOrd.compare_eq_iff_eq.2 hlength]
    rfl
  · rename_i hlength
    cases horder : compare as.length bs.length with
    | eq => exact absurd (Std.LawfulEqOrd.compare_eq_iff_eq.1 horder) hlength
    | lt | gt => rfl

/-- Items compare by the first ones and then by the rests. -/
theorem compare_items_cons (a b : Value H) (as bs : List (Value H)) :
    compareItems? (a :: as) (b :: bs) = thenRest (a.compare? b) (compareItems? as bs) := by
  rw [compareItems?]
  rfl

/-- The comparisons of three values of one kind fit together if they are no sequences. -/
theorem compare_chained_scalars {x y z : Value H} (hsequence : ∀ items, x ≠ .sequence items)
    (hfirst : SameKind x y) (hsecond : SameKind y z) :
    Chained (x.compare? y) (y.compare? z) (x.compare? z) := by
  cases hfirst with
  | nulls =>
      cases hsecond with
      | nulls => exact chained_equal
      | numerics hy => exact nomatch hy
  | numerics hx hy =>
      cases hsecond with
      | numerics _ hz =>
          rw [compare_of_numeric hx hy, compare_of_numeric hy hz, compare_of_numeric hx hz]
          exact Binary64.chained_order _ _ _
      | nulls | texts | sequences => exact nomatch hy
  | texts s t =>
      cases hsecond with
      | texts _ u =>
          simp only [compare_strings]
          exact chained_compare s t u
      | numerics hy => exact nomatch hy
  | sequences as => exact absurd rfl (hsequence as)

mutual
/-- The comparisons of three unmixed values fit together. -/
theorem compare_chained (h : Unmixed values) (x y z : Value H) (hx : x.leaves ⊆ values)
    (hy : y.leaves ⊆ values) (hz : z.leaves ⊆ values) :
    Chained (x.compare? y) (y.compare? z) (x.compare? z) := by
  intro o p hxy hyz
  have hfirst := same_kind_of_compare h hx hy hxy
  have hsecond := same_kind_of_compare h hy hz hyz
  cases x with
  | sequence as =>
      obtain ⟨bs, rfl⟩ := hfirst.exists_sequence
      obtain ⟨cs, rfl⟩ := hsecond.exists_sequence
      simp only [compare_sequences] at hxy hyz ⊢
      have hlengths := chained_compare as.length bs.length cs.length
      refine hlengths.then_rest (fun hab hbc => ?_) o p hxy hyz
      exact compare_items_chained h as bs cs hx hy hz
        (Std.LawfulEqOrd.compare_eq_iff_eq.1 (Option.some.inj hab))
        (Std.LawfulEqOrd.compare_eq_iff_eq.1 (Option.some.inj hbc))
  | _ =>
      refine compare_chained_scalars ?_ hfirst hsecond o p hxy hyz
      simp

/-- The comparisons of items of three unmixed sequences that are equally long fit together. -/
theorem compare_items_chained (h : Unmixed values) (as bs cs : List (Value H))
    (has : itemLeaves as ⊆ values) (hbs : itemLeaves bs ⊆ values) (hcs : itemLeaves cs ⊆ values)
    (hab : as.length = bs.length) (hbc : bs.length = cs.length) :
    Chained (compareItems? as bs) (compareItems? bs cs) (compareItems? as cs) := by
  match as, bs, cs with
  | [], [], [] => exact chained_equal
  | a :: as, b :: bs, c :: cs =>
      rw [itemLeaves, List.append_subset] at has hbs hcs
      have hhead := compare_chained h a b c has.1 hbs.1 hcs.1
      simp only [compare_items_cons]
      exact hhead.then_rest fun _ _ => compare_items_chained h as bs cs has.2 hbs.2 hcs.2
        (Nat.succ.inj hab) (Nat.succ.inj hbc)
end

end

/-- Of three values without objects and without text beside numbers, if the first is less than or
equal to the second and the second to the third, then the first is less than the third, and it is
equal to it if both pairs are equal. -/
theorem compare_trans {x y z : Value H} (h : Unmixed (x.leaves ++ y.leaves ++ z.leaves))
    {o p : Ordering} (hxy : x.compare? y = some o) (hyz : y.compare? z = some p)
    (ho : o = .lt ∨ o = .eq) (hp : p = .lt ∨ p = .eq) :
    x.compare? z = some (if o = .eq ∧ p = .eq then .eq else .lt) := by
  have hx : x.leaves ⊆ x.leaves ++ y.leaves ++ z.leaves := by simp
  have hy : y.leaves ⊆ x.leaves ++ y.leaves ++ z.leaves := by simp
  have hz : z.leaves ⊆ x.leaves ++ y.leaves ++ z.leaves := by simp
  have hchained := compare_chained h x y z hx hy hz o p hxy hyz
  rcases ho with rfl | rfl <;> rcases hp with rfl | rfl <;> exact hchained rfl rfl

-- Text beside numbers makes a cycle: "10" < "9" as texts, "9" = 9, and 9 < "10" as numbers.
example : (string "10" : Value Empty).compare? (.string "9") = some .lt ∧
    (string "9" : Value Empty).compare? (.number 9) = some .eq ∧
    (string "10" : Value Empty).compare? (.number 9) = some .gt := by decide +kernel

/-- A sequence of null and a sequence of one value. -/
def nested (v : Value Empty) : Value Empty :=
  .sequence [.null, .sequence [v]]

/-- A truth value that is equal to a number below a duration, two sequences deep. -/
theorem compare_trans_nested :
    Unmixed ((nested (.boolean true)).leaves ++ (nested (.number 1)).leaves ++
      (nested (.duration ⟨2000000, by decide⟩)).leaves) ∧
    (nested (.boolean true)).compare? (nested (.number 1)) = some .eq ∧
    (nested (.number 1)).compare? (nested (.duration ⟨2000000, by decide⟩)) = some .lt ∧
    (nested (.boolean true)).compare? (nested (.duration ⟨2000000, by decide⟩)) = some .lt := by
  have hunmixed : Unmixed ((nested (.boolean true)).leaves ++ (nested (.number 1)).leaves ++
      (nested (.duration ⟨2000000, by decide⟩)).leaves) := by
    have hleaves : ∀ v ∈ (nested (.boolean true)).leaves ++ (nested (.number 1)).leaves ++
        (nested (.duration ⟨2000000, by decide⟩)).leaves,
        v.isObject = false ∧ v.isText = false := by
      simp [nested, leaves, itemLeaves, isObject, isText]
    refine ⟨fun hv => (hleaves _ hv).1, fun hv _ htext => ?_⟩
    rw [(hleaves _ hv).2] at htext
    exact nomatch htext
  have hequal : (nested (.boolean true)).compare? (nested (.number 1)) = some .eq := by
    decide +kernel
  have hless : (nested (.number 1)).compare? (nested (.duration ⟨2000000, by decide⟩)) =
      some .lt := by
    decide +kernel
  exact ⟨hunmixed, hequal, hless, compare_trans hunmixed hequal hless (.inr rfl) (.inl rfl)⟩

end Value

end Formula
