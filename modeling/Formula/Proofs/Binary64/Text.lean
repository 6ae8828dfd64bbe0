import Formula.Binary64.Text
import Formula.Proofs.Binary64.Exact
import Formula.Proofs.Numeral

/-!
# Number text reads back

The digits that a finite double is written with are read as the same double, `read_to_text`. For the
digits of a grid this was checked when they were chosen; the digits in full are exact.
-/

namespace Formula.Binary64

/-- Digits without a sign are read as a number without a sign. -/
theorem of_decimal_unsigned (digits : Nat) (exponent : Int) :
    (ofDecimal false digits exponent).IsUnsigned := by
  unfold ofDecimal
  split
  · exact ⟨rfl, rfl⟩
  · split
    · exact ⟨rfl, rfl⟩
    · split
      · exact ⟨rfl, rfl⟩
      · exact of_units_unsigned _ _

/-- What is chosen on a grid reads back. -/
theorem of_decimal_on_grid {rule : HalfRule} {x : Binary64} {k : Int} {s : Scientific}
    (h : onGrid? rule x k = some s) : ofDecimal false s.digits s.exponent = x.abs := by
  unfold onGrid? at h
  dsimp only at h
  -- Both neighbours on the grid may read back, or one of them, or none.
  split at h
  · rename_i hlower hupper
    obtain rfl := Option.some.inj h
    dsimp only
    split
    · simpa using hupper
    · simpa using hlower
  · rename_i hlower hupper
    obtain rfl := Option.some.inj h
    simpa using hlower
  · rename_i hlower hupper
    obtain rfl := Option.some.inj h
    simpa using hupper
  · exact nomatch h

/-- Digits whose value is neither far too large nor far too small are rounded. -/
theorem of_decimal_eq_of_ratio {negative : Bool} {digits : Nat} {exponent : Int}
    (hne : digits ≠ 0) (hlarge : exponent ≤ 310) (hsmall : -330 ≤ exponent + digits.log2 + 1) :
    ofDecimal negative digits exponent =
      ofRatio negative (digits * tenPow exponent.toNat) (tenPow (-exponent).toNat) := by
  rw [ofDecimal, if_neg hne, if_neg (by omega), if_neg (by omega)]

/-- The digits in full read back: a unit is `5 ^ 1074 * 10 ^ -1074`. -/
theorem of_decimal_exact_digits {significand shift : Nat}
    (canonical : Canonical significand shift) (hne : significand * 2 ^ shift ≠ 0) :
    ofDecimal false (significand * 2 ^ shift * Nat.pow 5 1074) (-1074) =
      .finite false significand shift canonical := by
  have hten : Nat.pow 5 1074 * unitsPerOne = tenPow 1074 := by decide +kernel
  have hlarge : twoPow 743 ≤ Nat.pow 5 1074 := by decide +kernel
  have hfive : Nat.pow 5 1074 ≠ 0 := by decide +kernel
  have hpos : 0 < tenPow 1074 := by decide +kernel
  have hexponent : (-1074 : Int).toNat = 0 := by decide
  have hscale : (-(-1074) : Int).toNat = 1074 := by decide
  rw [← of_units_canonical false canonical]
  generalize significand * 2 ^ shift = n at hne
  have hbits (k : Nat) (hk : twoPow k ≤ Nat.pow 5 1074) : k ≤ (n * Nat.pow 5 1074).log2 := by
    rw [Nat.le_log2 (Nat.mul_ne_zero hne hfive)]
    exact Nat.le_trans hk (Nat.le_mul_of_pos_left _ (Nat.pos_of_ne_zero hne))
  have hlog := hbits 743 hlarge
  rw [of_decimal_eq_of_ratio (Nat.mul_ne_zero hne hfive) (by decide) (by omega), hexponent, hscale,
    ofRatio, show tenPow 0 = 1 from rfl, Nat.mul_one, Nat.mul_assoc, hten]
  generalize tenPow 1074 = ten at hpos
  have hscaled := of_units_mul_right false n 1 hpos
  rwa [Nat.one_mul] at hscaled

/-- The digits that a finite double is written with are those of its size. -/
theorem of_decimal_shortest (rule : HalfRule) {x : Binary64} (hfinite : x.isFinite = true)
    (hsign : x.isNegative = false) :
    ofDecimal false (shortest rule x).digits (shortest rule x).exponent = x := by
  cases x with
  | nan => exact nomatch hfinite
  | infinite => exact nomatch hfinite
  | finite negative significand shift canonical =>
      obtain rfl : negative = false := hsign
      have hunits : (finite false significand shift canonical).units =
          ((significand * 2 ^ shift : Nat) : Int) := rfl
      unfold shortest
      -- Zero, then the first grid on which something reads back, then the digits in full.
      split
      · rename_i hzero
        rw [hunits] at hzero
        have hzero : significand * 2 ^ shift = 0 * 2 ^ 0 := Int.natCast_eq_zero.1 hzero
        obtain ⟨rfl, rfl⟩ := canonical_unique canonical ⟨by decide, by decide, .inl rfl⟩ hzero
        rfl
      · rename_i hne
        rw [hunits] at hne
        cases hfound : (List.range 20).findSome? fun (i : Nat) =>
            onGrid? rule (finite false significand shift canonical)
              ((finite false significand shift canonical).coarsestGrid - i) with
        | none =>
            rw [Option.getD_none, exactDigits, hunits, Int.natAbs_natCast]
            exact of_decimal_exact_digits canonical (mt Int.natCast_eq_zero.2 hne)
        | some s =>
            obtain ⟨i, -, hgrid⟩ := List.exists_of_findSome?_eq_some hfound
            exact of_decimal_on_grid hgrid

namespace Scientific

open Numeral

/-- The digits of a whole number are digits. -/
theorem all_digits_to_digits (n : Nat) : AllDigits (Nat.toDigits 10 n) :=
  fun _ hc => Nat.isDigit_of_mem_toDigits (by decide) (by decide) hc

/-- The digits before the point are digits, of which there are some. -/
theorem all_digits_whole (s : Scientific) : AllDigits s.wholeDigits ∧ s.wholeDigits ≠ [] :=
  ⟨all_digits_to_digits _, Nat.toDigits_ne_nil⟩

/-- The digits after the point are digits. -/
theorem all_digits_fraction (s : Scientific) : AllDigits s.fractionDigits := by
  unfold fractionDigits
  dsimp only
  split
  · exact nofun
  · intro c hc
    rcases List.mem_append.1 hc with hc | hc
    · rw [List.eq_of_mem_replicate hc]
      rfl
    · exact all_digits_to_digits _ c hc

/-- The digits of what is left of a number by a power of ten are no more than its zeros. -/
theorem length_to_digits_mod (digits : Nat) {places : Nat} (hplaces : places ≠ 0) :
    (Nat.toDigits 10 (digits % tenPow places)).length ≤ places := by
  rw [Nat.length_toDigits_le_iff (by decide) (Nat.pos_of_ne_zero hplaces)]
  exact Nat.mod_lt digits (Nat.pow_pos (by decide))

/-- There are as many digits after the point as the exponent says. -/
theorem length_fraction (s : Scientific) : s.fractionDigits.length = (-s.exponent).toNat := by
  unfold fractionDigits
  dsimp only
  split
  · rename_i hzero
    rw [hzero, List.length_nil]
  · rename_i hplaces
    have hlength := length_to_digits_mod s.digits hplaces
    simp only [List.length_append, List.length_replicate]
    omega

/-- The digits around the point are those of the number. -/
theorem digits_value_append (s : Scientific) :
    digitsValue (s.wholeDigits ++ s.fractionDigits) = s.digits * tenPow s.exponent.toNat := by
  rw [digitsValue, Nat.ofDigitChars_append, wholeDigits, Nat.ofDigitChars_ten_toDigits]
  unfold fractionDigits
  dsimp only
  split
  · rename_i hzero
    simp [hzero]
  · rename_i hplaces
    have hlength := length_to_digits_mod s.digits hplaces
    have hexponent : s.exponent.toNat = 0 := by omega
    rw [Nat.ofDigitChars_append, Nat.ofDigitChars_replicate_zero,
      Nat.ofDigitChars_eq_ofDigitChars_zero, Nat.ofDigitChars_ten_toDigits, hexponent,
      ← Nat.mul_assoc, ← Nat.pow_add, Nat.add_sub_cancel' hlength]
    generalize (-s.exponent).toNat = places
    rw [show tenPow 0 = 1 from rfl, Nat.mul_one]
    exact Nat.div_add_mod s.digits (tenPow places)

/-- The number without an exponent has its digits before and after the point. -/
theorem positional_eq (s : Scientific) :
    s.positional =
      s.wholeDigits ++ if s.fractionDigits = [] then [] else '.' :: s.fractionDigits := by
  unfold positional
  split
  · rename_i hnil
    simp [hnil]
  · rename_i hne
    rw [if_neg (by simpa using hne)]

/-- The number without an exponent is read as its digits. -/
theorem read_positional (s : Scientific) :
    Numeral.read? s.positional =
      some (.decimal false (s.digits * tenPow s.exponent.toNat) (min s.exponent 0)) := by
  obtain ⟨hwhole, hne⟩ := all_digits_whole s
  have hlength := length_fraction s
  rw [positional_eq, ← digits_value_append]
  split
  · rename_i hnil
    rw [hnil, List.length_nil] at hlength
    rw [hnil, List.append_nil]
    have hread := read_whole hwhole hne (show readExponent [] = some 0 from rfl)
    rw [List.append_nil] at hread
    rw [hread, show min s.exponent 0 = 0 by omega]
  · rename_i hfraction
    have hpos := List.length_pos_of_ne_nil hfraction
    have hread := read_fraction hwhole hne (all_digits_fraction s)
      (show readExponent [] = some 0 from rfl)
    rw [List.append_nil] at hread
    rw [hread, hlength, show (0 : Int) - (-s.exponent).toNat = min s.exponent 0 by omega]

end Scientific

/-- Zeros behind the digits count as much as the exponent, for a number that is finite. -/
theorem of_decimal_ten_pow {digits : Nat} {exponent : Int}
    (hfinite : (ofDecimal false digits exponent).isFinite = true) :
    ofDecimal false (digits * tenPow exponent.toNat) (min exponent 0) =
      ofDecimal false digits exponent := by
  rcases Int.lt_or_le exponent 0 with hneg | hpos
  · rw [show exponent.toNat = 0 by omega, show min exponent 0 = exponent by omega,
      show tenPow 0 = 1 from rfl, Nat.mul_one]
  · by_cases hzero : digits = 0
    · simp [hzero, ofDecimal]
    · have hlarge : exponent ≤ 310 := by
        by_contra hlarge
        rw [ofDecimal, if_neg hzero, if_pos (by omega)] at hfinite
        exact nomatch hfinite
      have hscaled : digits * tenPow exponent.toNat ≠ 0 :=
        Nat.mul_ne_zero hzero (Nat.ne_of_gt (Nat.pow_pos (by decide)))
      rw [show min exponent 0 = 0 by omega, of_decimal_eq_of_ratio hscaled (by decide) (by omega),
        of_decimal_eq_of_ratio hzero hlarge (by omega), show (-exponent).toNat = 0 by omega]
      simp

/-- The text of a finite number without a sign is its shortest digits. -/
theorem to_text_eq_positional {x : Binary64} (hfinite : x.isFinite = true)
    (hsign : x.isNegative = false) : x.toText = String.ofList (shortest .up x).positional := by
  cases x with
  | nan => exact nomatch hfinite
  | infinite => exact nomatch hfinite
  | finite => simp [toText, positional, hsign]

/-- The text of a finite number without a sign is read as the number. -/
theorem read_to_text {x : Binary64} (hfinite : x.isFinite = true) (hsign : x.isNegative = false) :
    Binary64.read? x.toText = some x := by
  have hdecimal := of_decimal_shortest .up hfinite hsign
  rw [read?, to_text_eq_positional hfinite hsign, String.toList_ofList, Scientific.read_positional,
    Option.map_some, Numeral.toBinary64, of_decimal_ten_pow (by rwa [hdecimal]), hdecimal]

/-- Digits without an exponent are rounded to the double of their number. -/
theorem of_decimal_zero (digits : Nat) : ofDecimal false digits 0 = ofNat digits := by
  by_cases hzero : digits = 0
  · subst hzero
    decide +kernel
  · rw [of_decimal_eq_of_ratio hzero (by decide) (by omega)]
    simp [ofNat]

/-- The digits of a whole number are read as its double. -/
theorem read_repr (n : Nat) : Binary64.read? (Nat.repr n) = some (ofNat n) := by
  have hread := Numeral.read_whole (Scientific.all_digits_to_digits n) Nat.toDigits_ne_nil
    (show Numeral.readExponent [] = some 0 from rfl)
  rw [List.append_nil, Numeral.digitsValue, Nat.ofDigitChars_ten_toDigits] at hread
  rw [read?, Nat.toList_repr, hread, Option.map_some, Numeral.toBinary64, of_decimal_zero]

end Formula.Binary64
