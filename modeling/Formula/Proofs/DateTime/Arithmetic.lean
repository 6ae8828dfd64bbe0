import Formula.Proofs.Duration.Text
import Formula.Value.Operation

/-!
# Exact arithmetic on times

Away from leap seconds a date-time is a number of nanoseconds, as a duration is. The operators add
and subtract these numbers, and overflow as soon as the exact result is outside the range of its
kind, so the laws of addition and subtraction hold up to that, `time_arithmetic_exact`.
-/

namespace Formula

namespace Duration

/-- Whether so many nanoseconds are at most `2 ^ 63 - 1` milliseconds. -/
def InRange (nanos : Int) : Prop :=
  -(9223372036854775807 * 1000000) ≤ nanos ∧ nanos ≤ 9223372036854775807 * 1000000

/-- A duration is in range. -/
theorem in_range_nanos (d : Duration) : InRange d.nanos := by
  have hrange := d.inRange
  rw [longest] at hrange
  exact ⟨by omega, by omega⟩

/-- A number of nanoseconds is no duration exactly if it is out of range. -/
theorem of_nanos_eq_none_iff {nanos : Int} : ofNanos? nanos = none ↔ ¬InRange nanos := by
  have hlongest : nanos.natAbs ≤ longest ↔ InRange nanos := by
    rw [longest, InRange]
    omega
  rw [ofNanos?, ← hlongest]
  split
  · rename_i hfits
    exact iff_of_false (by simp) (not_not_intro hfits)
  · rename_i hlong
    exact iff_of_true rfl hlong

end Duration

namespace DateTime

/-- Whether so many nanoseconds from 1970 are from the first day of year -262143 to the last one of
year 262142. -/
def InRange (nanos : Int) : Prop :=
  Date.dayNumber ⟨-262143, 1, 1⟩ * (86400 * nanosPerSecond) ≤ nanos ∧
    nanos < Date.dayNumber ⟨262143, 1, 1⟩ * (86400 * nanosPerSecond)

/-- The range of years in seconds. -/
theorem in_range_iff {nanos : Int} :
    InRange nanos ↔ earliest ≤ nanos / nanosPerSecond ∧ nanos / nanosPerSecond ≤ latest := by
  have hfirst : Date.dayNumber ⟨-262143, 1, 1⟩ * 86400 = earliest := by decide
  have hlast : Date.dayNumber ⟨262143, 1, 1⟩ * 86400 = latest + 1 := by decide
  rw [InRange, ← Int.mul_assoc, ← Int.mul_assoc, hfirst, hlast, nanosPerSecond]
  omega

/-- Away from leap seconds a date-time has less than a second of nanoseconds. -/
theorem nanos_lt_of_not_leap {t : DateTime} (h : t.isLeapSecond = false) :
    t.nanos < nanosPerSecond :=
  Nat.lt_of_not_le (of_decide_eq_false h)

/-- The seconds and nanoseconds of a date-time come back from their number of nanoseconds. -/
theorem stored_nanos_parts {t : DateTime} (h : t.isLeapSecond = false) :
    t.storedNanos / nanosPerSecond = t.seconds ∧ t.storedNanos % nanosPerSecond = t.nanos := by
  have hnanos := nanos_lt_of_not_leap h
  rw [storedNanos]
  rw [nanosPerSecond] at *
  omega

/-- A date-time away from leap seconds is its number of nanoseconds. -/
theorem eq_of_stored_nanos {t u : DateTime} (ht : t.isLeapSecond = false)
    (hu : u.isLeapSecond = false) (h : t.storedNanos = u.storedNanos) : t = u := by
  obtain ⟨hseconds, hnanos⟩ := stored_nanos_parts ht
  obtain ⟨hseconds', hnanos'⟩ := stored_nanos_parts hu
  rw [h] at hseconds hnanos
  cases t
  cases u
  congr 1
  · exact hseconds.symm.trans hseconds'
  · exact Int.ofNat.inj (hnanos.symm.trans hnanos')

/-- A date-time away from leap seconds is in range. -/
theorem in_range_stored_nanos {t : DateTime} (h : t.isLeapSecond = false) :
    InRange t.storedNanos := by
  rw [in_range_iff, (stored_nanos_parts h).1]
  exact t.inRange

/-- A number of nanoseconds in range is that of a date-time away from leap seconds. -/
theorem of_nanos_of_in_range {nanos : Int} (h : InRange nanos) :
    ∃ u, ofNanos? nanos = some u ∧ u.isLeapSecond = false ∧ u.storedNanos = nanos := by
  have hlt : (nanos % nanosPerSecond).toNat < 1000000000 := by
    rw [nanosPerSecond]
    omega
  have hleap : 1000000000 ≤ (nanos % nanosPerSecond).toNat → nanos / nanosPerSecond % 60 = 59 :=
    fun hle => absurd hle (Nat.not_le.2 hlt)
  refine ⟨⟨nanos / nanosPerSecond, (nanos % nanosPerSecond).toNat, in_range_iff.1 h, by omega,
    hleap⟩, ?_, ?_, ?_⟩
  · rw [ofNanos?, ofParts?, dif_pos]
    exact ⟨in_range_iff.1 h, by omega, hleap⟩
  · exact decide_eq_false (Nat.not_le.2 hlt)
  · simp only [storedNanos, nanosPerSecond]
    omega

/-- A number of nanoseconds that is a date-time is in range. -/
theorem in_range_of_nanos {nanos : Int} {u : DateTime} (h : ofNanos? nanos = some u) :
    InRange nanos := by
  rw [ofNanos?, ofParts?] at h
  split at h
  · rename_i hparts
    exact in_range_iff.2 hparts.1
  · exact nomatch h

/-- A number of nanoseconds is a date-time exactly if it is the number of one away from leap
seconds. -/
theorem of_nanos_eq_some_iff {nanos : Int} {u : DateTime} :
    ofNanos? nanos = some u ↔ u.isLeapSecond = false ∧ u.storedNanos = nanos := by
  constructor
  · intro h
    obtain ⟨v, hv, hleap, hstored⟩ := of_nanos_of_in_range (in_range_of_nanos h)
    obtain rfl := Option.some.inj (hv.symm.trans h)
    exact ⟨hleap, hstored⟩
  · rintro ⟨hleap, rfl⟩
    obtain ⟨v, hv, hleap', hstored⟩ := of_nanos_of_in_range (in_range_stored_nanos hleap)
    rw [hv, eq_of_stored_nanos hleap' hleap hstored]

/-- A number of nanoseconds is no date-time exactly if it is out of range. -/
theorem of_nanos_eq_none_iff {nanos : Int} : ofNanos? nanos = none ↔ ¬InRange nanos := by
  constructor
  · intro hnone hrange
    obtain ⟨u, hu, -⟩ := of_nanos_of_in_range hrange
    exact nomatch hu.symm.trans hnone
  · intro hrange
    cases hu : ofNanos? nanos with
    | none => rfl
    | some u => exact absurd (in_range_of_nanos hu) hrange

section

variable {t : DateTime} (h : t.isLeapSecond = false) (d : Duration)

include h

/-- Away from leap seconds a date-time is moved by adding nanoseconds. -/
theorem add_eq : t.add? d = ofNanos? (t.storedNanos + d.nanos) := by
  rw [add?, if_neg (Bool.eq_false_iff.1 h)]

/-- Away from leap seconds a date-time is moved back by subtracting nanoseconds. -/
theorem sub_eq : t.sub? d = ofNanos? (t.storedNanos - d.nanos) :=
  add_eq h d.neg

end

/-- Away from leap seconds a date-time is the one of its nanoseconds. -/
theorem of_nanos_stored_nanos {t : DateTime} (h : t.isLeapSecond = false) :
    ofNanos? t.storedNanos = some t :=
  of_nanos_eq_some_iff.2 ⟨h, rfl⟩

/-- Away from leap seconds the difference of date-times is that of their nanoseconds. -/
theorem nanos_since {a b : DateTime} (ha : a.isLeapSecond = false) (hb : b.isLeapSecond = false) :
    (a.since b).nanos = a.storedNanos - b.storedNanos := by
  have hcorrection : leapCorrection a b = 0 := by
    simp [leapCorrection, ha, hb]
  simp [since, hcorrection]

end DateTime

namespace Value

variable {H : Type}

/-- A result is exact for a date-time: the one of a number of nanoseconds, no leap second, or an
overflow if the number is out of range. -/
def IsInstant (op : BinaryOp) (nanos : Int) (result : Except EvalError (Value H)) : Prop :=
  (DateTime.InRange nanos ∧ ∃ u : DateTime, result = .ok (.dateTime u) ∧ u.isLeapSecond = false ∧
    u.storedNanos = nanos) ∨
  (¬DateTime.InRange nanos ∧ result = .error (.overflow op))

/-- A result is exact for a duration: the one of a number of nanoseconds, or an overflow if the
number is out of range. -/
def IsSpan (op : BinaryOp) (nanos : Int) (result : Except EvalError (Value H)) : Prop :=
  (Duration.InRange nanos ∧ ∃ d : Duration, result = .ok (.duration d) ∧ d.nanos = nanos) ∨
  (¬Duration.InRange nanos ∧ result = .error (.overflow op))

/-- A date-time of some nanoseconds, or else an overflow, is exact. -/
theorem is_instant_of_nanos (op : BinaryOp) (nanos : Int) :
    IsInstant (H := H) op nanos (inRange op .dateTime (DateTime.ofNanos? nanos)) := by
  cases h : DateTime.ofNanos? nanos with
  | none => exact .inr ⟨DateTime.of_nanos_eq_none_iff.1 h, rfl⟩
  | some u => exact .inl ⟨DateTime.in_range_of_nanos h, u, rfl, DateTime.of_nanos_eq_some_iff.1 h⟩

/-- A duration of some nanoseconds, or else an overflow, is exact. -/
theorem is_span_of_nanos (op : BinaryOp) (nanos : Int) :
    IsSpan (H := H) op nanos (inRange op .duration (Duration.ofNanos? nanos)) := by
  cases h : Duration.ofNanos? nanos with
  | none => exact .inr ⟨Duration.of_nanos_eq_none_iff.1 h, rfl⟩
  | some d =>
      obtain ⟨-, hd⟩ := Duration.of_nanos_eq_some_iff.1 h
      exact .inl ⟨hd ▸ d.in_range_nanos, d, rfl, hd⟩

/-- Arithmetic on times succeeds with what it finds in range. -/
theorem in_range_eq_ok_iff {α : Type} {op : BinaryOp} {wrap : α → Value H} {found : Option α}
    {v : Value H} : inRange op wrap found = .ok v ↔ ∃ x, found = some x ∧ wrap x = v := by
  cases found with
  | none => simp [inRange]
  | some x => simp [inRange]

variable [HostObject H]

section

variable {t : DateTime} (ht : t.isLeapSecond = false) (d : Duration)

include ht

/-- Away from leap seconds a date-time and a duration add their nanoseconds. -/
theorem add_date_time_eq : binary .add (.dateTime t : Value H) (.duration d) =
    inRange .add .dateTime (DateTime.ofNanos? (t.storedNanos + d.nanos)) := by
  rw [← DateTime.add_eq ht]
  rfl

/-- Away from leap seconds a date-time less a duration subtracts the nanoseconds. -/
theorem subtract_duration_eq : binary .subtract (.dateTime t : Value H) (.duration d) =
    inRange .subtract .dateTime (DateTime.ofNanos? (t.storedNanos - d.nanos)) := by
  rw [← DateTime.sub_eq ht]
  rfl

/-- A duration that was added to a date-time can be subtracted. -/
theorem subtract_of_add_date_time {u : Value H}
    (h : binary .add (.dateTime t) (.duration d) = .ok u) :
    binary .subtract u (.duration d) = .ok (.dateTime t) := by
  rw [add_date_time_eq ht, in_range_eq_ok_iff] at h
  obtain ⟨v, hv, rfl⟩ := h
  obtain ⟨hleap, hnanos⟩ := DateTime.of_nanos_eq_some_iff.1 hv
  rw [subtract_duration_eq hleap, hnanos, Int.add_sub_cancel, DateTime.of_nanos_stored_nanos ht]
  rfl

/-- To subtract a duration is to add its negation. -/
theorem subtract_eq_ok_iff_add_negate (u : Value H) :
    binary .subtract (.dateTime t) (.duration d) = .ok u ↔
      (unary .negate (.duration d) >>= binary .add (.dateTime t)) = .ok u := by
  change _ ↔ binary .add (.dateTime t) (.duration d.neg) = .ok u
  rw [subtract_duration_eq ht, add_date_time_eq ht, in_range_eq_ok_iff, in_range_eq_ok_iff]
  rfl

/-- Two durations are added to a date-time one by one or as their sum. -/
theorem add_add_date_time {e : Duration} {u s : Value H}
    (hu : binary .add (.dateTime t) (.duration d) = .ok u)
    (hs : binary .add (.duration d) (.duration e) = .ok s) :
    binary .add u (.duration e) = binary .add (.dateTime t) s := by
  rw [add_date_time_eq ht, in_range_eq_ok_iff] at hu
  obtain ⟨v, hv, rfl⟩ := hu
  obtain ⟨c, hc, rfl⟩ := in_range_eq_ok_iff.1 hs
  obtain ⟨hleap, hnanos⟩ := DateTime.of_nanos_eq_some_iff.1 hv
  obtain ⟨-, hsum⟩ := Duration.of_nanos_eq_some_iff.1 hc
  rw [add_date_time_eq hleap, add_date_time_eq ht, hnanos, hsum, Int.add_assoc]

end

/-- The difference of two date-times away from leap seconds leads from one to the other, and back
with the opposite sign. -/
theorem exists_difference {a b : DateTime} (ha : a.isLeapSecond = false)
    (hb : b.isLeapSecond = false) :
    ∃ c : Value H, binary .subtract (.dateTime a) (.dateTime b) = .ok c ∧
      binary .add (.dateTime b) c = .ok (.dateTime a) ∧
      binary .subtract (.dateTime b) (.dateTime a) = unary .negate c := by
  have hforth := DateTime.nanos_since ha hb
  have hback := DateTime.nanos_since hb ha
  refine ⟨.duration (a.since b), rfl, ?_, ?_⟩
  · have hreach : b.storedNanos + (a.since b).nanos = a.storedNanos := by omega
    rw [add_date_time_eq hb, hreach, DateTime.of_nanos_stored_nanos ha]
    rfl
  · have hneg : b.since a = (a.since b).neg := by
      apply Duration.eq_of_nanos
      change _ = -(a.since b).nanos
      omega
    exact congrArg (fun c => Except.ok (Value.duration c)) hneg

/-- Durations are added in either order. -/
theorem add_durations_comm (d e : Duration) :
    binary .add (.duration e : Value H) (.duration d) =
      binary .add (.duration d) (.duration e) := by
  change inRange _ _ (Duration.ofNanos? _) = inRange _ _ (Duration.ofNanos? _)
  rw [Int.add_comm]

/-- A duration that was added to another one can be subtracted. -/
theorem subtract_of_add_duration {d e : Duration} {s : Value H}
    (h : binary .add (.duration d) (.duration e) = .ok s) :
    binary .subtract s (.duration e) = .ok (.duration d) := by
  obtain ⟨c, hc, rfl⟩ := in_range_eq_ok_iff.1 h
  obtain ⟨-, hsum⟩ := Duration.of_nanos_eq_some_iff.1 hc
  have hback : Duration.ofNanos? (c.nanos - e.nanos) = some d :=
    Duration.of_nanos_eq_some_iff.2 ⟨by rw [hsum, Int.add_sub_cancel]; exact d.inRange, by omega⟩
  change inRange _ _ (Duration.ofNanos? (c.nanos - e.nanos)) = _
  rw [hback]
  rfl

/-- Away from leap seconds sums and differences of date-times and durations are exact, and overflow
exactly if the exact result is out of range. So what was added can be subtracted, to subtract is to
add the negation, a difference of date-times leads from one to the other, durations are added in
either order, and one by one or together. -/
theorem time_arithmetic_exact {a b t : DateTime} (ha : a.isLeapSecond = false)
    (hb : b.isLeapSecond = false) (ht : t.isLeapSecond = false) (d e : Duration) :
    let instant : DateTime → Value H := .dateTime
    let span : Duration → Value H := .duration
    (IsInstant .add (t.storedNanos + d.nanos) (binary .add (instant t) (span d)) ∧
      IsInstant .subtract (t.storedNanos - d.nanos) (binary .subtract (instant t) (span d)) ∧
      IsSpan .subtract (a.storedNanos - b.storedNanos) (binary .subtract (instant a) (instant b)) ∧
      IsSpan .add (d.nanos + e.nanos) (binary .add (span d) (span e)) ∧
      IsSpan .subtract (d.nanos - e.nanos) (binary .subtract (span d) (span e))) ∧
    (binary .add (span d) (instant t) = binary .add (instant t) (span d) ∧
      ∀ u, binary .add (instant t) (span d) = .ok u →
        binary .subtract u (span d) = .ok (instant t)) ∧
    (∀ u, binary .subtract (instant t) (span d) = .ok u ↔
      (unary .negate (span d) >>= binary .add (instant t)) = .ok u) ∧
    (∃ c, binary .subtract (instant a) (instant b) = .ok c ∧
      binary .add (instant b) c = .ok (instant a) ∧
      binary .subtract (instant b) (instant a) = unary .negate c) ∧
    (binary .add (span e) (span d) = binary .add (span d) (span e) ∧
      ∀ s, binary .add (span d) (span e) = .ok s → binary .subtract s (span e) = .ok (span d)) ∧
    (∀ u s, binary .add (instant t) (span d) = .ok u → binary .add (span d) (span e) = .ok s →
      binary .add u (span e) = binary .add (instant t) s) := by
  intro instant span
  refine ⟨⟨?_, ?_, ?_, is_span_of_nanos _ _, is_span_of_nanos _ _⟩, ⟨rfl, ?_⟩, ?_, ?_, ⟨?_, ?_⟩, ?_⟩
  · rw [add_date_time_eq ht]
    exact is_instant_of_nanos _ _
  · rw [subtract_duration_eq ht]
    exact is_instant_of_nanos _ _
  · have hnanos := DateTime.nanos_since ha hb
    exact .inl ⟨hnanos ▸ (a.since b).in_range_nanos, a.since b, rfl, hnanos⟩
  · exact fun u => subtract_of_add_date_time ht d
  · exact subtract_eq_ok_iff_add_negate ht d
  · exact exists_difference ha hb
  · exact add_durations_comm d e
  · exact fun s => subtract_of_add_duration
  · exact fun u s => add_add_date_time ht d

/-- The last instant, from which a nanosecond back leads away and two forward lead out of range, by
one or by two additions; it is as far from the first one as date-times can be. -/
theorem time_arithmetic_exact_last :
    let last : DateTime := ⟨DateTime.latest, 999999999, by decide, by decide, by decide⟩
    let first : DateTime := ⟨DateTime.earliest, 0, by decide, by decide, by decide⟩
    let before : DateTime := ⟨DateTime.latest, 999999998, by decide, by decide, by decide⟩
    let back : Duration := ⟨-1, by decide⟩
    let forward : Duration := ⟨2, by decide⟩
    let instant : DateTime → Value Empty := .dateTime
    let span : Duration → Value Empty := .duration
    last.isLeapSecond = false ∧ first.isLeapSecond = false ∧
    binary .add (instant last) (span back) = .ok (instant before) ∧
    binary .add (span back) (span forward) = .ok (span ⟨1, by decide⟩) ∧
    binary .subtract (instant before) (span back) = .ok (instant last) ∧
    binary .add (instant before) (span forward) = .error (.overflow .add) ∧
    IsInstant .add (last.storedNanos - 1) (binary .add (instant last) (span back)) ∧
    (∃ c, binary .subtract (instant last) (instant first) = .ok c ∧
      binary .add (instant first) c = .ok (instant last) ∧
      binary .subtract (instant first) (instant last) = unary .negate c) := by
  intro last first before back forward instant span
  obtain ⟨⟨hexact, -⟩, ⟨-, hundo⟩, -, hdifference, -, htogether⟩ :=
    time_arithmetic_exact (H := Empty) (a := last) (b := first) (t := last) rfl rfl rfl back forward
  have hfound : last.add? back = some before := by decide +kernel
  have hmoved : binary .add (instant last) (span back) = .ok (instant before) :=
    congrArg (inRange .add instant) hfound
  have hsum : binary .add (span back) (span forward) = .ok (span ⟨1, by decide⟩) := by rfl
  have hlost : last.add? ⟨1, by decide⟩ = none := by decide +kernel
  have hover : binary .add (instant before) (span forward) = .error (.overflow .add) :=
    (htogether _ _ hmoved hsum).trans (congrArg (inRange .add instant) hlost)
  exact ⟨rfl, rfl, hmoved, hsum, hundo _ hmoved, hover, hexact, hdifference⟩

end Value

end Formula
