import Formula.Builtin
import Formula.Proofs.Binary64.Integer
import Formula.Proofs.Duration.RoundTrip

/-!
# The components of a duration

The members of a duration are the digits of its length in milliseconds in the units of the clock,
each with the sign of the duration, and its text shows the same digits without that sign,
`components_recompose`. The components of an amount with the opposite sign are the opposite ones, so
that everything about them is shown of amounts without a sign.
-/

namespace Formula.Duration

open Numeral

/-- The digits of a number in two runs, each with zeros in front. -/
theorem padded_add {front back n : Nat} (hfront : 0 < front) (hback : 0 < back)
    (h : n < 10 ^ (front + back)) :
    padded (front + back) n = padded front (n / 10 ^ back) ++ padded back (n % 10 ^ back) := by
  have hlow := length_padded hback (Nat.mod_lt n (Nat.pow_pos (by decide)))
  have hhigh : (padded front (n / 10 ^ back)).length = front := by
    refine length_padded hfront (Nat.div_lt_of_lt_mul ?_)
    rwa [← Nat.pow_add, Nat.add_comm]
  refine eq_of_digits_value (all_digits_padded _ _) (fun c hc => ?_) ?_ ?_
  · rcases List.mem_append.1 hc with hc | hc
    · exact all_digits_padded _ _ c hc
    · exact all_digits_padded _ _ c hc
  · rw [length_padded (by omega) h, List.length_append, hlow, hhigh]
  · rw [digits_value_append, hlow, digits_value_padded, digits_value_padded, digits_value_padded]
    exact (Nat.div_add_mod' n (10 ^ back)).symm

/-- A length in days, hours, minutes, seconds and milliseconds. -/
structure Components where
  days : Int
  hours : Int
  minutes : Int
  seconds : Int
  milliseconds : Int

namespace Components

/-- The components as a list, from the days down. -/
def parts (c : Components) : List Int :=
  [c.days, c.hours, c.minutes, c.seconds, c.milliseconds]

/-- The length of components in milliseconds. -/
def total (c : Components) : Int :=
  c.days * 86400000 + c.hours * 3600000 + c.minutes * 60000 + c.seconds * 1000 + c.milliseconds

/-- The components with the opposite sign. -/
def neg (c : Components) : Components where
  days := -c.days
  hours := -c.hours
  minutes := -c.minutes
  seconds := -c.seconds
  milliseconds := -c.milliseconds

/-- Each component is less than one of the next greater unit. -/
structure IsReduced (c : Components) : Prop where
  hours : c.hours.natAbs < 24
  minutes : c.minutes.natAbs < 60
  seconds : c.seconds.natAbs < 60
  milliseconds : c.milliseconds.natAbs < 1000

/-- No component has the sign opposite to that of an amount. -/
def SharesSign (c : Components) (amount : Int) : Prop :=
  ∀ part ∈ c.parts, (0 ≤ amount → 0 ≤ part) ∧ (amount ≤ 0 → part ≤ 0)

/-- The parts of a text show components without their signs: the days if there are any, two digits
for each field of the clock, and the milliseconds as the first three of seven digits, if there is a
fraction, or else none. -/
structure ShownBy (c : Components) (p : Parts) : Prop where
  days : p.days = if c.days = 0 then none else some (Nat.toDigits 10 c.days.natAbs)
  hours : p.hours = padded 2 c.hours.natAbs
  minutes : p.minutes = padded 2 c.minutes.natAbs
  seconds : p.wholeSeconds? = some (padded 2 c.seconds.natAbs)
  fraction : p.fraction? = none ∧ c.milliseconds = 0 ∨
    ∃ back, p.fraction? = some (padded 3 c.milliseconds.natAbs ++ back) ∧ back.length = 4

/-- The components of a number of nanoseconds, each cut toward zero. -/
def ofNanos (nanos : Int) : Components where
  days := (nanos.tdiv nanosPerSecond).tdiv 86400
  hours := ((nanos.tdiv nanosPerSecond).tdiv 3600).tmod 24
  minutes := ((nanos.tdiv nanosPerSecond).tdiv 60).tmod 60
  seconds := (nanos.tdiv nanosPerSecond).tmod 60
  milliseconds := (nanos.tdiv 1000000).tmod 1000

/-- The opposite amount has the opposite components. -/
theorem of_nanos_neg (nanos : Int) : ofNanos (-nanos) = (ofNanos nanos).neg := by
  simp only [ofNanos, neg, Int.neg_tdiv, Int.neg_tmod]

/-- The components of an amount without a sign. -/
theorem of_nanos_nat_cast (size : Nat) : ofNanos size =
    { days := (size / nanosPerSecond / 86400 : Nat)
      hours := (size / nanosPerSecond / 3600 % 24 : Nat)
      minutes := (size / nanosPerSecond / 60 % 60 : Nat)
      seconds := (size / nanosPerSecond % 60 : Nat)
      milliseconds := (size / 1000000 % 1000 : Nat) } := by
  rfl

/-- The size of a component does not depend on the sign. -/
theorem nat_abs_of_nanos (nanos : Int) :
    (ofNanos nanos).days.natAbs = nanos.natAbs / nanosPerSecond / 86400 ∧
      (ofNanos nanos).hours.natAbs = nanos.natAbs / nanosPerSecond / 3600 % 24 ∧
      (ofNanos nanos).minutes.natAbs = nanos.natAbs / nanosPerSecond / 60 % 60 ∧
      (ofNanos nanos).seconds.natAbs = nanos.natAbs / nanosPerSecond % 60 ∧
      (ofNanos nanos).milliseconds.natAbs = nanos.natAbs / 1000000 % 1000 := by
  simp only [ofNanos, Int.natAbs_tdiv, Int.natAbs_tmod, Int.natAbs_natCast]
  exact ⟨rfl, rfl, rfl, rfl, rfl⟩

/-- The components of any amount are reduced. -/
theorem is_reduced_of_nanos (nanos : Int) : (ofNanos nanos).IsReduced := by
  obtain ⟨-, hhours, hminutes, hseconds, hmilliseconds⟩ := nat_abs_of_nanos nanos
  exact ⟨by omega, by omega, by omega, by omega⟩

/-- Opposite components share the sign of the opposite amount. -/
theorem SharesSign.neg {c : Components} {amount : Int} (h : c.SharesSign amount) :
    c.neg.SharesSign (-amount) := by
  intro opposite hopposite
  have hparts : c.neg.parts = c.parts.map fun part => -part := rfl
  rw [hparts, List.mem_map] at hopposite
  obtain ⟨part, hpart, rfl⟩ := hopposite
  have hsign := h part hpart
  omega

/-- The components of an amount share its sign. -/
theorem shares_sign_of_nanos (nanos : Int) : (ofNanos nanos).SharesSign nanos := by
  have hsize (size : Nat) : (ofNanos size).SharesSign size := by
    intro part hpart
    obtain ⟨count, rfl, hcount⟩ : ∃ count : Nat, part = count ∧ count ≤ size := by
      rw [of_nanos_nat_cast, nanosPerSecond] at hpart
      simp only [parts, List.mem_cons, List.not_mem_nil, or_false] at hpart
      rcases hpart with rfl | rfl | rfl | rfl | rfl <;> exact ⟨_, rfl, by omega⟩
    omega
  obtain ⟨size, rfl | rfl⟩ := nanos.eq_nat_or_neg
  · exact hsize size
  · rw [of_nanos_neg]
    exact (hsize size).neg

/-- Opposite components have the opposite length. -/
theorem total_neg (c : Components) : c.neg.total = -c.total := by
  simp only [total, neg]
  omega

/-- The length of the components of an amount is its length in whole milliseconds. -/
theorem total_of_nanos (nanos : Int) : (ofNanos nanos).total = nanos.tdiv 1000000 := by
  have hsize (size : Nat) : (ofNanos size).total = (size / 1000000 : Nat) := by
    simp only [of_nanos_nat_cast, total, nanosPerSecond]
    omega
  obtain ⟨size, rfl | rfl⟩ := nanos.eq_nat_or_neg
  · exact hsize size
  · rw [of_nanos_neg, total_neg, Int.neg_tdiv, hsize]
    rfl

end Components

section

variable {H : Type}

/-- Whether the member of a name is an integer, without rounding. -/
def IsMember (v : Value H) (name : String) (k : Int) : Prop :=
  Builtin.member? v name = some (.ofInt k) ∧ (Binary64.ofInt k).IsExactly k

/-- Whether the members of a value are components. -/
structure HasComponents (v : Value H) (c : Components) : Prop where
  days : IsMember v "Days" c.days
  hours : IsMember v "Hours" c.hours
  minutes : IsMember v "Minutes" c.minutes
  seconds : IsMember v "Seconds" c.seconds
  milliseconds : IsMember v "Milliseconds" c.milliseconds

/-- The members of a duration are its components. -/
theorem has_components (d : Duration) :
    HasComponents (.duration d : Value H) (.ofNanos d.nanos) := by
  obtain ⟨hdays, hhours, hminutes, hseconds, hmilliseconds⟩ := Components.nat_abs_of_nanos d.nanos
  have hrange := d.inRange
  rw [longest] at hrange
  rw [nanosPerSecond] at hdays
  exact ⟨⟨rfl, Binary64.is_exactly_of_int (by omega)⟩, ⟨rfl, Binary64.is_exactly_of_int (by omega)⟩,
    ⟨rfl, Binary64.is_exactly_of_int (by omega)⟩, ⟨rfl, Binary64.is_exactly_of_int (by omega)⟩,
    ⟨rfl, Binary64.is_exactly_of_int (by omega)⟩⟩

/-- The parts that a duration is written as show its components. -/
theorem shown_by_of_ticks (d : Duration) :
    (Components.ofNanos d.nanos).ShownBy
      (.ofTicks (decide (d.nanos < 0)) (d.nanos.natAbs / nanosPerSecond)
        (d.nanos.natAbs % nanosPerSecond / nanosPerTick)) := by
  obtain ⟨hdays, hhours, hminutes, hseconds, hmilliseconds⟩ := Components.nat_abs_of_nanos d.nanos
  have hticks := d.ticks_lt
  generalize hcount : d.nanos.natAbs % nanosPerSecond / nanosPerTick = ticks at hticks
  have hfirst : ticks / 10 ^ 4 = (Components.ofNanos d.nanos).milliseconds.natAbs := by
    rw [hmilliseconds, ← hcount, nanosPerSecond, nanosPerTick]
    omega
  refine ⟨?_, congrArg (padded 2) hhours.symm, congrArg (padded 2) hminutes.symm,
    congrArg (fun n => some (padded 2 n)) hseconds.symm, ?_⟩
  · rw [Parts.ofTicks, ← hdays]
    simp only [Nat.pos_iff_ne_zero, ne_eq, Int.natAbs_eq_zero, ite_not]
  · change (if 0 < ticks then some (padded 7 ticks) else none) = none ∧ _ ∨
      ∃ back, (if 0 < ticks then some (padded 7 ticks) else none) = _ ∧ _
    rcases Nat.eq_zero_or_pos ticks with rfl | hpos
    · exact .inl ⟨rfl, Int.natAbs_eq_zero.1 hfirst.symm⟩
    · have hruns : padded 7 ticks = padded 3 (ticks / 10 ^ 4) ++ padded 4 (ticks % 10 ^ 4) :=
        padded_add (Nat.succ_pos 2) (Nat.succ_pos 3) hticks
      rw [if_pos hpos, hruns, hfirst]
      exact .inr ⟨_, rfl, length_padded (by decide) (Nat.mod_lt _ (by decide))⟩

variable [HostObject H]

/-- The components of a duration are its members, share its sign, are reduced and add up to its
length in whole milliseconds, toward zero. Those of its negation are the negated ones, and its text
shows them without their signs. -/
theorem components_recompose (d : Duration) :
    ∃ c : Components, HasComponents (.duration d : Value H) c ∧
      c.IsReduced ∧ c.SharesSign d.nanos ∧ c.total = d.nanos.tdiv 1000000 ∧
      (∃ e : Duration, Builtin.method? (.duration d : Value H) "Negate" [] =
          some (.ok (.duration e)) ∧ HasComponents (.duration e : Value H) c.neg) ∧
      ∃ p : Parts, Parts.read? d.toText.toList = some p ∧ p.negative = decide (d.nanos < 0) ∧
        c.ShownBy p := by
  refine ⟨.ofNanos d.nanos, d.has_components, Components.is_reduced_of_nanos _,
    Components.shares_sign_of_nanos _, Components.total_of_nanos _, ⟨d.neg, rfl, ?_⟩,
    _, ?_, rfl, d.shown_by_of_ticks⟩
  · rw [← Components.of_nanos_neg]
    exact d.neg.has_components
  · have hwritten := Parts.of_ticks_written (decide (d.nanos < 0))
      (d.nanos.natAbs / nanosPerSecond) d.ticks_lt
    rw [toText, String.toList_ofList, to_chars_eq, Parts.read_eq_some_iff]
    exact ⟨rfl, hwritten.spelled.mono fun _ => is_decimal_digit_of_is_digit⟩

-- A day, two hours and a second and a half back: the minutes are zero, the others negative.
example : (Components.ofNanos (-93601500000000)).parts = [-1, -2, 0, -1, -500] := by decide

end

end Formula.Duration
