import Formula.Proofs.Binary64.Integer
import Formula.Proofs.Value.Kinds

/-!
# Bitwise operators on integers

The bitwise operators work on words of 64 bits and give doubles. On integers of 54 bits the words
lose nothing and the doubles round nothing, so the operators are those of two's complement integers
of any size, and the shifts are products and floors of quotients by powers of two,
`bitwise_operators_exact`.
-/

namespace Formula

/-- Integers with the same bits are equal. -/
theorem eq_of_test_bit_eq {a b : Int} (h : ∀ i, a.testBit i = b.testBit i) : a = b := by
  -- Far up a natural number has zeros and a negative one has ones.
  have hsign (m n : Nat) : ∃ i, (Int.ofNat m).testBit i ≠ (Int.negSucc n).testBit i := by
    have hm : m.testBit (m + n) = false :=
      Nat.testBit_lt_two_pow (Nat.lt_of_le_of_lt (Nat.le_add_right m n) Nat.lt_two_pow_self)
    have hn : n.testBit (m + n) = false :=
      Nat.testBit_lt_two_pow (Nat.lt_of_le_of_lt (Nat.le_add_left n m) Nat.lt_two_pow_self)
    exact ⟨m + n, by simp [Int.testBit, hm, hn]⟩
  cases a with
  | ofNat m =>
      cases b with
      | ofNat n => exact congrArg Int.ofNat (Nat.eq_of_testBit_eq h)
      | negSucc n =>
          obtain ⟨i, hi⟩ := hsign m n
          exact absurd (h i) hi
  | negSucc m =>
      cases b with
      | ofNat n =>
          obtain ⟨i, hi⟩ := hsign n m
          exact absurd (h i).symm hi
      | negSucc n =>
          refine congrArg Int.negSucc (Nat.eq_of_testBit_eq fun i => ?_)
          simpa [Int.testBit] using h i

/-- The bits of a word's integer are the bits of the word, and its sign above them. -/
theorem test_bit_to_int {w : Nat} (x : BitVec w) (i : Nat) :
    x.toInt.testBit i = if i < w then x.getLsbD i else x.msb := by
  rw [BitVec.toInt_eq_msb_cond]
  cases hmsb : x.msb with
  | false =>
      rw [if_neg Bool.false_ne_true]
      change x.getLsbD i = _
      split
      · rfl
      · exact BitVec.getLsbD_of_ge _ _ (by omega)
  | true =>
      have hneg : (x.toNat : Int) - (2 ^ w : Nat) = Int.negSucc (2 ^ w - (x.toNat + 1)) := by
        have hlt := x.isLt
        rw [Int.negSucc_eq]
        omega
      rw [if_pos rfl, hneg]
      change (!(2 ^ w - (x.toNat + 1)).testBit i) = _
      rw [Nat.testBit_two_pow_sub_succ x.isLt]
      split <;> simp [*, BitVec.testBit_toNat]

/-- Whether an integer is one of so many bits in two's complement. -/
def IsSigned (bits : Nat) (k : Int) : Prop :=
  -2 ^ (bits - 1) ≤ k ∧ k < 2 ^ (bits - 1)

instance (bits : Nat) (k : Int) : Decidable (IsSigned bits k) :=
  inferInstanceAs (Decidable (_ ∧ _))

/-- An integer of the size of a word is the integer of its word. -/
theorem IsSigned.to_int {w : Nat} {k : Int} (h : IsSigned w k) (hw : 0 < w) :
    (BitVec.ofInt w k).toInt = k :=
  BitVec.toInt_ofInt_eq_self hw h.1 h.2

/-- The integer of a word is one of the size of the word. -/
theorem is_signed_to_int {w : Nat} (x : BitVec w) : IsSigned w x.toInt :=
  ⟨x.le_toInt, x.toInt_lt⟩

/-- An integer of some bits is one of more bits. -/
theorem IsSigned.mono {w v : Nat} {k : Int} (h : IsSigned w k) (hwv : w ≤ v) : IsSigned v k := by
  have hpow : (2 : Int) ^ (w - 1) ≤ 2 ^ (v - 1) :=
    pow_le_pow_right₀ (by decide) (Nat.sub_le_sub_right hwv 1)
  obtain ⟨hlow, hhigh⟩ := h
  exact ⟨by omega, by omega⟩

/-- An operation on words, of whatever size, that is an operation on their integers. -/
def ActsOnIntegers (f : (w : Nat) → BitVec w → BitVec w → BitVec w) (g : Int → Int → Int) : Prop :=
  ∀ (w : Nat) (x y : BitVec w), (f w x y).toInt = g x.toInt y.toInt

/-- An operation on words that goes bit by bit is the one on integers that does. -/
theorem acts_on_integers_of_bits {f : (w : Nat) → BitVec w → BitVec w → BitVec w}
    {g : Int → Int → Int} (op : Bool → Bool → Bool)
    (hbits : ∀ w (x y : BitVec w) i, i < w → (f w x y).getLsbD i = op (x.getLsbD i) (y.getLsbD i))
    (hsign : ∀ w (x y : BitVec w), (f w x y).msb = op x.msb y.msb)
    (hg : ∀ a b i, (g a b).testBit i = op (a.testBit i) (b.testBit i)) : ActsOnIntegers f g := by
  intro w x y
  refine eq_of_test_bit_eq fun i => ?_
  rw [hg, test_bit_to_int, test_bit_to_int, test_bit_to_int]
  split
  · exact hbits w x y i ‹_›
  · exact hsign w x y

/-- The conjunction of words is the one of integers. -/
theorem acts_and : ActsOnIntegers (fun _ x y => x &&& y) Int.land :=
  acts_on_integers_of_bits (· && ·) (fun _ _ _ _ _ => BitVec.getLsbD_and)
    (fun _ _ _ => BitVec.msb_and) Int.testBit_land

/-- The disjunction of words is the one of integers. -/
theorem acts_or : ActsOnIntegers (fun _ x y => x ||| y) Int.lor :=
  acts_on_integers_of_bits (· || ·) (fun _ _ _ _ _ => BitVec.getLsbD_or)
    (fun _ _ _ => BitVec.msb_or) Int.testBit_lor

/-- The exclusive disjunction of words is the one of integers. -/
theorem acts_xor : ActsOnIntegers (fun _ x y => x ^^^ y) Int.xor :=
  acts_on_integers_of_bits (· ^^ ·) (fun _ _ _ _ _ => BitVec.getLsbD_xor)
    (fun _ _ _ => BitVec.msb_xor) Int.testBit_lxor

section

variable {f : (w : Nat) → BitVec w → BitVec w → BitVec w} {g : Int → Int → Int} {a b : Int}

/-- An operation on integers that is one on words does not need more bits than its operands. -/
theorem ActsOnIntegers.is_signed (h : ActsOnIntegers f g) {w : Nat} (hw : 0 < w)
    (ha : IsSigned w a) (hb : IsSigned w b) : IsSigned w (g a b) := by
  have hword := is_signed_to_int (f w (BitVec.ofInt w a) (BitVec.ofInt w b))
  rwa [h, ha.to_int hw, hb.to_int hw] at hword

end

/-- The complement takes the next integer below with the opposite sign. -/
theorem lnot_eq (a : Int) : a.lnot = -a - 1 := by
  cases a with
  | ofNat m =>
      change Int.negSucc m = -(m : Int) - 1
      rw [Int.negSucc_eq]
      omega
  | negSucc m =>
      change (m : Int) = _
      rw [Int.negSucc_eq]
      omega

/-- The complement of an integer has no more bits. -/
theorem IsSigned.lnot {w : Nat} {a : Int} (h : IsSigned w a) : IsSigned w a.lnot := by
  obtain ⟨hlow, hhigh⟩ := h
  rw [lnot_eq]
  exact ⟨by omega, by omega⟩

/-- A word shifted to the left is the integer times a power of two, as long as it is in range. -/
theorem to_int_shift_left {w k : Nat} {a : Int} (hw : 0 < w) (h : IsSigned w (a * 2 ^ k)) :
    (BitVec.ofInt w a <<< k).toInt = a * 2 ^ k := by
  have hpower : BitVec.twoPow w k = BitVec.ofInt w (2 ^ k) := by
    have hcast : (2 : Int) ^ k = (2 ^ k : Nat) := (Nat.cast_pow 2 k).symm
    apply BitVec.eq_of_toNat_eq
    rw [hcast, BitVec.ofInt_natCast, BitVec.toNat_twoPow, BitVec.toNat_ofNat]
  rw [BitVec.shiftLeft_eq_mul_twoPow, hpower, ← BitVec.ofInt_mul, h.to_int hw]

/-- A word shifted to the right is the floor of the quotient by a power of two. -/
theorem to_int_shift_right {w : Nat} {a : Int} (hw : 0 < w) (h : IsSigned w a) (k : Nat) :
    ((BitVec.ofInt w a).sshiftRight k).toInt = ⌊(a : ℚ) / 2 ^ k⌋ := by
  rw [BitVec.toInt_sshiftRight, h.to_int hw, Int.shiftRight_eq_div_pow,
    ← Rat.floor_intCast_div_natCast, Nat.cast_pow]
  rfl

/-- The floor of a quotient of an integer by a power of two has no more bits. -/
theorem IsSigned.floor_div {w : Nat} {a : Int} (h : IsSigned w a) (hw : 0 < w) (k : Nat) :
    IsSigned w ⌊(a : ℚ) / 2 ^ k⌋ := by
  have hword := is_signed_to_int ((BitVec.ofInt w a).sshiftRight k)
  rwa [to_int_shift_right hw h] at hword

/-- Bit by bit, not both is one of the complements. -/
theorem lnot_land (a b : Int) : (a.land b).lnot = a.lnot.lor b.lnot :=
  eq_of_test_bit_eq fun i => by
    simp only [Int.testBit_lnot, Int.testBit_land, Int.testBit_lor, Bool.not_and]

/-- Bit by bit, an integer that is taken twice cancels out. -/
theorem xor_xor_cancel (a b : Int) : (a.xor b).xor b = a :=
  eq_of_test_bit_eq fun i => by
    simp only [Int.testBit_lxor, Bool.xor_assoc, Bool.xor_self, Bool.xor_false]

namespace Value

variable {H : Type}

/-- A result is exactly an integer, as a number. -/
def Yields (result : Except EvalError (Value H)) (k : Int) : Prop :=
  ∃ n : Binary64, result = .ok (.number n) ∧ n.IsExactly k

/-- An integer of 54 bits as a number is exact. -/
theorem yields_of_signed {k : Int} (h : IsSigned 54 k) : Yields (H := H) (.ok (ofInt k)) k := by
  obtain ⟨hlow, hhigh⟩ := h
  exact ⟨_, rfl, Binary64.is_exactly_of_int (by omega)⟩

/-- An integer of 54 bits times a power of two as a number is exact. -/
theorem yields_of_shifted {a : Int} {k : Nat} (h : IsSigned 54 a) (hk : k < 64) :
    Yields (H := H) (.ok (ofInt (a * 2 ^ k))) (a * 2 ^ k) := by
  obtain ⟨hlow, hhigh⟩ := h
  exact ⟨_, rfl, Binary64.is_exactly_of_int_shifted (by omega) (by omega)⟩

/-- A number that is an integer of 64 bits has it as its 64-bit integer part. -/
theorem to_int64_of_yields {v : Value H} {k : Int} (h : Yields (.ok v) k) (hk : IsSigned 64 k) :
    v.toInt64 = k := by
  obtain ⟨n, hn, hexact⟩ := h
  obtain rfl := Except.ok.inj hn
  exact hexact.to_int64 hk.1 hk.2

/-- An integer of 54 bits as a number has itself as its 64-bit integer part. -/
theorem to_int64_of_signed {k : Int} (h : IsSigned 54 k) : (ofInt k : Value H).toInt64 = k :=
  to_int64_of_yields (yields_of_signed h) (h.mono (by decide))

/-- The count of a shift is below 64. -/
theorem shift_count_lt (y : Value H) : y.shiftCount < 64 := by
  have hpos := Int.emod_nonneg y.toInt32 (show (64 : Int) ≠ 0 by decide)
  have hlt := Int.emod_lt_of_pos y.toInt32 (show (0 : Int) < 64 by decide)
  rw [shiftCount]
  omega

variable [HostObject H]

/-- A number is equal to itself in the language. -/
theorem equal_self {n : Binary64} (h : n.isNaN = false) :
    binary .equal (.number n : Value H) (.number n) = .ok (.boolean true) := by
  have hcompare : (number n : Value H).compare? (.number n) = some .eq :=
    (compare_of_numeric rfl rfl).trans (Binary64.order_self h)
  rw [binary, looseEq, hcompare]
  rfl

section

variable {x y : Value H} (hx : x.isIntegral = true)

include hx

/-- The complement is that of the integer. -/
theorem complement_eq : unary .complement x = .ok (ofInt x.toInt64.lnot) := by
  rw [unary, if_pos hx, lnot_eq]

variable (hy : y.isIntegral = true)

include hy

/-- An operator on the words of two integers gives the integer of the word. -/
theorem bitwise_eq (op : BinaryOp) (f : BitVec 64 → BitVec 64 → BitVec 64) :
    bitwise op f x y =
      .ok (ofInt (f (BitVec.ofInt 64 x.toInt64) (BitVec.ofInt 64 y.toInt64)).toInt) := by
  rw [bitwise, hx, hy]
  rfl

/-- An operator on words that is one on integers gives its result on the integers. -/
theorem bitwise_of_acts {f : (w : Nat) → BitVec w → BitVec w → BitVec w} {g : Int → Int → Int}
    (h : ActsOnIntegers f g) (ha : IsSigned 54 x.toInt64) (hb : IsSigned 54 y.toInt64)
    (op : BinaryOp) : bitwise op (f 64) x y = .ok (ofInt (g x.toInt64 y.toInt64)) := by
  rw [bitwise_eq hx hy, h, (ha.mono (by decide)).to_int (by decide),
    (hb.mono (by decide)).to_int (by decide)]

/-- The complement of a conjunction. -/
theorem complement_and_eq (ha : IsSigned 54 x.toInt64) (hb : IsSigned 54 y.toInt64) :
    (binary .bitAnd x y >>= unary .complement) = .ok (ofInt (x.toInt64.land y.toInt64).lnot) := by
  have hand := bitwise_of_acts hx hy acts_and ha hb .bitAnd
  have hinner : (ofInt (x.toInt64.land y.toInt64) : Value H).toInt64 = _ :=
    to_int64_of_signed (acts_and.is_signed (by decide) ha hb)
  rw [binary, hand]
  change unary .complement (ofInt (x.toInt64.land y.toInt64) : Value H) = _
  rw [complement_eq rfl, hinner]

/-- The disjunction of complements. -/
theorem or_complements_eq (ha : IsSigned 54 x.toInt64) (hb : IsSigned 54 y.toInt64) :
    (do binary .bitOr (← unary .complement x) (← unary .complement y)) =
      .ok (ofInt (x.toInt64.land y.toInt64).lnot : Value H) := by
  have hnotA : (ofInt x.toInt64.lnot : Value H).toInt64 = _ := to_int64_of_signed ha.lnot
  have hnotB : (ofInt y.toInt64.lnot : Value H).toInt64 = _ := to_int64_of_signed hb.lnot
  rw [complement_eq hx, complement_eq hy]
  change bitwise .bitOr _ (ofInt x.toInt64.lnot : Value H) (ofInt y.toInt64.lnot) = _
  rw [bitwise_of_acts rfl rfl acts_or (hnotA.symm ▸ ha.lnot) (hnotB.symm ▸ hb.lnot), hnotA, hnotB,
    lnot_land]

/-- The exclusive disjunction with an operand twice is the other operand. -/
theorem xor_xor_eq (ha : IsSigned 54 x.toInt64) (hb : IsSigned 54 y.toInt64) :
    (binary .bitXor x y >>= fun v => binary .bitXor v y) = .ok (ofInt x.toInt64) := by
  have hxor := acts_xor.is_signed (by decide) ha hb
  have hinner : (ofInt (x.toInt64.xor y.toInt64) : Value H).toInt64 = _ := to_int64_of_signed hxor
  rw [binary, bitwise_of_acts hx hy acts_xor ha hb]
  change bitwise .bitXor _ (ofInt (x.toInt64.xor y.toInt64) : Value H) y = _
  rw [bitwise_of_acts rfl hy acts_xor (hinner.symm ▸ hxor) hb, hinner, xor_xor_cancel]

/-- A shift to the right is the floor of a quotient. -/
theorem shift_right_eq (ha : IsSigned 64 x.toInt64) :
    binary .shiftRight x y = .ok (ofInt ⌊(x.toInt64 : ℚ) / 2 ^ y.shiftCount⌋) := by
  rw [binary, bitwise_eq hx hy, to_int_shift_right (by decide) ha]

/-- A shift to the left is a product, as long as it is in range. -/
theorem shift_left_eq (h : IsSigned 64 (x.toInt64 * 2 ^ y.shiftCount)) :
    binary .shiftLeft x y = .ok (ofInt (x.toInt64 * 2 ^ y.shiftCount)) := by
  rw [binary, bitwise_eq hx hy, to_int_shift_left (by decide) h]

/-- A shift to the left that stays in range is undone by the shift to the right. -/
theorem shift_right_shift_left_eq (ha : IsSigned 54 x.toInt64)
    (h : IsSigned 64 (x.toInt64 * 2 ^ y.shiftCount)) :
    (binary .shiftLeft x y >>= fun v => binary .shiftRight v y) = .ok (ofInt x.toInt64) := by
  have hinner : (ofInt (x.toInt64 * 2 ^ y.shiftCount) : Value H).toInt64 = _ :=
    to_int64_of_yields (yields_of_shifted ha (shift_count_lt y)) h
  have hquotient : ((x.toInt64 * 2 ^ y.shiftCount : Int) : ℚ) / 2 ^ y.shiftCount = x.toInt64 := by
    push_cast
    exact mul_div_cancel_right₀ _ (pow_ne_zero _ two_ne_zero)
  rw [shift_left_eq hx hy h]
  change binary .shiftRight (ofInt (x.toInt64 * 2 ^ y.shiftCount) : Value H) y = _
  rw [shift_right_eq rfl hy (hinner.symm ▸ h), hinner, hquotient, Int.floor_intCast]

end

/-- On operands whose integers `a` and `b` have at most 54 bits the bitwise operators are exact, so
they follow the laws of bits; and so are the shifts of such an `a` by any count, which is taken
modulo 64, as long as a shift to the left stays within 64 bits. -/
theorem bitwise_operators_exact {x y : Value H} (hx : x.isIntegral = true)
    (hy : y.isIntegral = true) :
    let a := x.toInt64
    let b := y.toInt64
    let k := (y.toInt32 % 64).toNat
    (IsSigned 54 a → IsSigned 54 b →
      Yields (binary .bitAnd x y) (a.land b) ∧
      Yields (binary .bitOr x y) (a.lor b) ∧
      Yields (binary .bitXor x y) (a.xor b) ∧
      Yields (unary .complement x) a.lnot ∧
      (∃ v w, (binary .bitAnd x y >>= unary .complement) = .ok v ∧
        (do binary .bitOr (← unary .complement x) (← unary .complement y)) = .ok w ∧
        binary .equal v w = .ok (.boolean true)) ∧
      Yields (binary .bitXor x y >>= fun v => binary .bitXor v y) a) ∧
    (IsSigned 54 a →
      Yields (binary .shiftRight x y) ⌊(a : ℚ) / 2 ^ k⌋ ∧
      (IsSigned 64 (a * 2 ^ k) →
        Yields (binary .shiftLeft x y) (a * 2 ^ k) ∧
        Yields (binary .shiftLeft x y >>= fun v => binary .shiftRight v y) a)) := by
  intro a b k
  refine ⟨fun ha hb => ⟨?_, ?_, ?_, ?_, ?_, ?_⟩, fun ha => ⟨?_, fun h => ⟨?_, ?_⟩⟩⟩
  · rw [binary, bitwise_of_acts hx hy acts_and ha hb]
    exact yields_of_signed (acts_and.is_signed (by decide) ha hb)
  · rw [binary, bitwise_of_acts hx hy acts_or ha hb]
    exact yields_of_signed (acts_or.is_signed (by decide) ha hb)
  · rw [binary, bitwise_of_acts hx hy acts_xor ha hb]
    exact yields_of_signed (acts_xor.is_signed (by decide) ha hb)
  · rw [complement_eq hx]
    exact yields_of_signed ha.lnot
  · obtain ⟨n, hn, hexact⟩ : Yields (H := H) (.ok (ofInt (a.land b).lnot)) (a.land b).lnot :=
      yields_of_signed (acts_and.is_signed (by decide) ha hb).lnot
    refine ⟨.number n, .number n, ?_, ?_, equal_self (Binary64.is_nan_of_finite hexact.1)⟩
    · rw [complement_and_eq hx hy ha hb, hn]
    · rw [or_complements_eq hx hy ha hb, hn]
  · rw [xor_xor_eq hx hy ha hb]
    exact yields_of_signed ha
  · rw [shift_right_eq hx hy (ha.mono (by decide))]
    exact yields_of_signed (ha.floor_div (by decide) k)
  · change IsSigned 64 (x.toInt64 * 2 ^ y.shiftCount) at h
    rw [shift_left_eq hx hy h]
    exact yields_of_shifted ha (shift_count_lt y)
  · rw [shift_right_shift_left_eq hx hy ha h]
    exact yields_of_signed ha

/-- The least integer of 54 bits as text between blanks, shifted by a negative count to the least
one of 64 bits. -/
theorem bitwise_operators_exact_least :
    let x : Value Empty := .string " -9007199254740992 "
    let y : Value Empty := ofInt (-54)
    x.isIntegral = true ∧ y.isIntegral = true ∧ IsSigned 54 x.toInt64 ∧ IsSigned 54 y.toInt64 ∧
    IsSigned 64 (x.toInt64 * 2 ^ (y.toInt32 % 64).toNat) ∧
    Yields (binary .bitAnd x y) (-9007199254740992) ∧
    Yields (binary .bitXor x y >>= fun v => binary .bitXor v y) (-9007199254740992) ∧
    Yields (binary .shiftLeft x y) (-9223372036854775808) ∧
    Yields (binary .shiftLeft x y >>= fun v => binary .shiftRight v y) (-9007199254740992) := by
  intro x y
  have hx : x.isIntegral = true := by decide +kernel
  have ha : x.toInt64 = -9007199254740992 := by decide +kernel
  have hb : y.toInt64 = -54 := by decide +kernel
  have hcount : (y.toInt32 % 64).toNat = 10 := by decide +kernel
  have hsigned : IsSigned 54 x.toInt64 ∧ IsSigned 54 y.toInt64 ∧
      IsSigned 64 (x.toInt64 * 2 ^ (y.toInt32 % 64).toNat) := by
    rw [ha, hb, hcount]
    decide
  obtain ⟨hleast, hcountSigned, hproduct⟩ := hsigned
  obtain ⟨hbits, hshifts⟩ := bitwise_operators_exact hx (y := y) rfl
  obtain ⟨hand, -, -, -, -, hxor⟩ := hbits hleast hcountSigned
  obtain ⟨hleft, hback⟩ := (hshifts hleast).2 hproduct
  rw [ha, hb] at hand
  rw [ha, hcount] at hleft
  rw [ha] at hxor hback
  exact ⟨hx, rfl, hleast, hcountSigned, hproduct, hand, hxor, hleft, hback⟩

end Value

end Formula
