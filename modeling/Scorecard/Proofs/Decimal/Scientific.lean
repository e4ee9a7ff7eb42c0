import Scorecard.Decimal.Numeral
import Scorecard.Proofs.Decimal.Nearest
import Scorecard.Proofs.Decimal.Positional

/-!
# Numerals become the nearest doubles

A numeral is turned into a double by one multiplication or division of exact operands: a short one
as a double times or over a power of ten that is a double, and a long one as its digits times or
over a power of ten of any size. Either is rounded once, so the result is the double nearest to the
numeral, or infinity if the numeral is out of range.
-/

namespace Scorecard.Decimal

open Float.Model (UnpackedFloat Format totalExponent)
open Float.Model.UnpackedFloat

/-! ## Products and quotients -/

section Operations

variable {x : Float} {m n : Nat} {e f : Int} {hm : 0 < m} {hn : 0 < n}

/-- A product of 53 bits or more is rounded once. -/
theorem isDoubleOf_mul (hx : x.toModel = .pack (.mul Format.binary64 (.finite .positive m e hm)
    (.finite .positive n f hn))) (hbits : 52 ≤ (m * n).log2) :
    IsDoubleOf ((m : ℚ) * 2 ^ e * (n * 2 ^ f)) x := by
  have hvalue : (m : ℚ) * 2 ^ e * (n * 2 ^ f) = (m * n : Nat) * 2 ^ (e + f) := by
    rw [zpow_add₀ two_ne_zero, Nat.cast_mul]
    ring
  rw [hvalue]
  exact isDoubleOf_roundWithAccuracy hx (Describes.whole (m * n)) (.inl hbits)

/-- A quotient is rounded once. -/
theorem isDoubleOf_div (hx : x.toModel = .pack (.div Format.binary64 (.finite .positive m e hm)
    (.finite .positive n f hn))) : IsDoubleOf ((m : ℚ) * 2 ^ e / (n * 2 ^ f)) x := by
  obtain ⟨t, ht⟩ :
      ∃ t : Int, t = min (e - f) (max ((m.log2 + e) - (n.log2 + f) - 53) (-1074)) := ⟨_, rfl⟩
  obtain ⟨k, hk⟩ : ∃ k : Nat, (k : Int) = e - f - t := ⟨(e - f - t).toNat, by omega⟩
  have hvalue : (m : ℚ) * 2 ^ e / (n * 2 ^ f) = (m * 2 ^ k : Nat) / n * 2 ^ t := by
    have hexponent : e - f = k + t := by omega
    rw [mul_div_mul_comm, ← zpow_sub₀ two_ne_zero, hexponent, zpow_add₀ two_ne_zero, zpow_natCast]
    push_cast
    ring
  have hx' : x.toModel = .pack (roundWithAccuracy Format.binary64 .positive (m * 2 ^ k / n) t
      (accuracyOfFraction (m * 2 ^ k % n) n)) := by
    rw [hx]
    change Float.Model.pack (roundWithAccuracy Format.binary64 (.positive / .positive)
      (divCore Format.binary64 m e n f).1 (divCore Format.binary64 m e n f).2.1
      (divCore Format.binary64 m e n f).2.2) = _
    rw [divCore_eq ht hk]
    rfl
  have hshape : 52 ≤ (m * 2 ^ k / n).log2 ∨ t ≤ -1074 := by
    by_cases hlow : t ≤ -1074
    · exact .inr hlow
    · -- The dividend is given 53 bits more than the divisor has.
      have hbits : n.log2 + 53 ≤ m.log2 + k := by omega
      have hquotient : 2 ^ 52 ≤ m * 2 ^ k / n := by
        rw [Nat.le_div_iff_mul_le hn]
        calc 2 ^ 52 * n ≤ 2 ^ 52 * 2 ^ (n.log2 + 1) := Nat.mul_le_mul_left _ Nat.lt_log2_self.le
          _ = 2 ^ (n.log2 + 53) := by
            rw [← Nat.pow_add]
            congr 1
            omega
          _ ≤ 2 ^ (m.log2 + k) := Nat.pow_le_pow_right Nat.two_pos hbits
          _ = 2 ^ m.log2 * 2 ^ k := Nat.pow_add _ _ _
          _ ≤ m * 2 ^ k := Nat.mul_le_mul_right _ (Nat.log2_self_le hm.ne')
      exact .inl ((Nat.le_log2 (by omega)).2 hquotient)
  rw [hvalue]
  exact isDoubleOf_roundWithAccuracy hx' (Describes.quotient (m * 2 ^ k) hn) hshape

end Operations

/-! ## Exact operands -/

/-- A number that has 53 bits already is not rounded. -/
theorem roundWithAccuracy_of_log2 (s : Sign) {m : Nat} {e : Int} (h : 0 < m) (hm : m.log2 = 52)
    (he : -1074 ≤ e) : roundWithAccuracy Format.binary64 s m e .exact = .finite s m e h :=
  roundWithAccuracy_of_shifts (shift_of_log2 hm he) (shift_of_log2 hm he) h.ne'

/-- A whole number of at most 53 bits is a double. -/
theorem unpack_ofUInt64_exact {n : Nat} (hne : n ≠ 0) (hn : n < 2 ^ 53) :
    ∃ m e h, (Float.Model.ofUInt64 n.toUInt64).unpack = .finite .positive m e h ∧ m.log2 = 52 ∧
      (m : ℚ) * 2 ^ e = n := by
  have hlog : n.log2 < 53 := (Nat.log2_lt hne).2 hn
  have hshifted : (n * 2 ^ (52 - n.log2)).log2 = 52 := by
    rw [log2_mul_two_pow hne]
    omega
  have hpos : 0 < n * 2 ^ (52 - n.log2) :=
    Nat.mul_pos (Nat.pos_of_ne_zero hne) (Nat.two_pow_pos _)
  have hbits := (Nat.log2_eq_iff hpos.ne').1 hshifted
  refine ⟨n * 2 ^ (52 - n.log2), 0 - (52 - n.log2 : Nat), hpos, ?_, hshifted, ?_⟩
  · change (Float.Model.pack (UnpackedFloat.ofUInt64 Format.binary64 n.toUInt64)).unpack = _
    rw [ofUInt64_eq_roundWithAccuracy hne hn,
      roundWithAccuracy_of_log2 .positive hpos hshifted (by omega),
      unpack_pack_of_shape hbits.2 (by omega) (.inl hshifted) (by omega)]
  · rw [zero_sub, zpow_neg, zpow_natCast, Nat.cast_mul, Nat.cast_pow, Nat.cast_ofNat,
      mul_inv_cancel_right₀ (pow_ne_zero _ two_ne_zero)]

/-- Whether an unpacked double is a power of ten, with 53 bits. -/
def isPowerOfTen (k : Nat) : UnpackedFloat → Bool
  | .finite .positive m e _ => m.log2 = 52 && m * 2 ^ e.toNat = 10 ^ k * 2 ^ (-e).toNat
  | _ => false

theorem exists_of_isPowerOfTen {k : Nat} {u : UnpackedFloat} (h : isPowerOfTen k u = true) :
    ∃ m e h, u = .finite .positive m e h ∧ m.log2 = 52 ∧ (m : ℚ) * 2 ^ e = 10 ^ k := by
  unfold isPowerOfTen at h
  split at h
  · rename_i m e hm
    rw [Bool.and_eq_true, decide_eq_true_eq, decide_eq_true_eq] at h
    refine ⟨m, e, hm, rfl, h.1, ?_⟩
    have hcast : (m : ℚ) * 2 ^ e.toNat = 10 ^ k * 2 ^ (-e).toNat := by exact_mod_cast h.2
    have hsplit : e = (e.toNat : Int) - ((-e).toNat : Int) := by omega
    rw [hsplit, zpow_sub₀ two_ne_zero, zpow_natCast, zpow_natCast, ← mul_div_assoc, hcast,
      mul_div_cancel_right₀ _ (pow_ne_zero _ two_ne_zero)]
  · cases h

/-- The powers of ten that short numerals need are doubles. -/
theorem isPowerOfTen_table (k : Fin 23) :
    isPowerOfTen k (Float.exactlyRepresentablePowersOfTen[k]).toModel.unpack = true := by
  revert k
  decide

/-! ## Numerals -/

section Numerals

variable {digits k : Nat}

/-- Many digits are multiplied by the power of ten as a whole number. -/
theorem toModel_ofScientific_of_long (hlong : ¬ (digits < 2 ^ 53 ∧ k ≤ 22)) (hdigits : digits ≠ 0)
    (hk : k ≤ 2 ^ 11) (hm : 0 < digits <<< 53) (hn : 0 < 10 ^ k) :
    (Float.ofScientific digits false k).toModel = .pack (.mul Format.binary64
      (.finite .positive (digits <<< 53) (-53) hm) (.finite .positive (10 ^ k) 0 hn)) := by
  unfold Float.ofScientific
  rw [dif_neg hlong]
  change Float.Model.pack (UnpackedFloat.ofScientific Format.binary64 digits (k : Int)) = _
  have hhigh : ¬ (k : Int) > 2 ^ Format.binary64.exponentBits := by
    change ¬ (k : Int) > 2048
    omega
  have hlow : ¬ (k : Int) < -((2 ^ Format.binary64.exponentBits : Int) + digits.log2) := by
    change ¬ (k : Int) < -(2048 + digits.log2)
    omega
  rw [UnpackedFloat.ofScientific, dif_neg hdigits, if_neg hhigh, if_neg hlow,
    if_pos (Int.natCast_nonneg k)]
  rfl

/-- Many digits are divided by the power of ten as a whole number. -/
theorem toModel_ofScientific_neg_of_long (hlong : ¬ (digits < 2 ^ 53 ∧ k ≤ 22))
    (hdigits : digits ≠ 0) (hpos : 0 < k) (hk : k ≤ 2 ^ 11 + digits.log2) (hm : 0 < digits)
    (hn : 0 < 10 ^ k) :
    (Float.ofScientific digits true k).toModel = .pack (.div Format.binary64
      (.finite .positive digits 0 hm) (.finite .positive (10 ^ k) 0 hn)) := by
  have hneg : Int.negOfNat k = -(k : Int) := Int.negOfNat_eq
  unfold Float.ofScientific
  rw [dif_neg hlong]
  change Float.Model.pack (UnpackedFloat.ofScientific Format.binary64 digits (Int.negOfNat k)) = _
  have hhigh : ¬ Int.negOfNat k > 2 ^ Format.binary64.exponentBits := by
    change ¬ Int.negOfNat k > 2048
    omega
  have hlow : ¬ Int.negOfNat k < -((2 ^ Format.binary64.exponentBits : Int) + digits.log2) := by
    change ¬ Int.negOfNat k < -(2048 + digits.log2)
    omega
  have hnegative : ¬ 0 ≤ Int.negOfNat k := by
    omega
  have hexponent : (-Int.negOfNat k).toNat = k := by
    omega
  rw [UnpackedFloat.ofScientific, dif_neg hdigits, if_neg hhigh, if_neg hlow, if_neg hnegative]
  simp only [hexponent]

/-- Digits times a power of ten. -/
theorem isDoubleOf_ofScientific (hdigits : digits ≠ 0) (hk : k ≤ 2 ^ 11) :
    IsDoubleOf (digits * 10 ^ k) (Float.ofScientific digits false k) := by
  by_cases hshort : digits < 2 ^ 53 ∧ k ≤ 22
  · obtain ⟨m, e, hm, hdouble, hmlog, hvalue⟩ := unpack_ofUInt64_exact hdigits hshort.1
    obtain ⟨n, f, hn, hpower, hnlog, hten⟩ :=
      exists_of_isPowerOfTen (isPowerOfTen_table ⟨k, Nat.lt_succ_of_le hshort.2⟩)
    have hmodel : (Float.ofScientific digits false k).toModel = .pack (.mul Format.binary64
        (.finite .positive m e hm) (.finite .positive n f hn)) := by
      rw [← hdouble, ← hpower]
      unfold Float.ofScientific
      rw [dif_pos hshort]
      rfl
    have hbits : 52 ≤ (m * n).log2 := by
      have hlow := (Nat.log2_eq_iff hm.ne').1 hmlog
      rw [Nat.le_log2 (Nat.mul_ne_zero hm.ne' hn.ne')]
      exact hlow.1.trans (Nat.le_mul_of_pos_right m hn)
    rw [← hvalue, ← hten]
    exact isDoubleOf_mul hmodel hbits
  · have hpos : 0 < digits := Nat.pos_of_ne_zero hdigits
    have hm : 0 < digits <<< 53 := by
      rw [Nat.shiftLeft_eq]
      exact Nat.mul_pos hpos (Nat.two_pow_pos _)
    have hn : 0 < 10 ^ k := Nat.pow_pos (by decide)
    have hbits : 52 ≤ (digits <<< 53 * 10 ^ k).log2 := by
      rw [Nat.le_log2 (Nat.mul_ne_zero hm.ne' hn.ne'), Nat.shiftLeft_eq]
      calc 2 ^ 52 ≤ 2 ^ 53 := by decide
        _ ≤ digits * 2 ^ 53 := Nat.le_mul_of_pos_left _ hpos
        _ ≤ digits * 2 ^ 53 * 10 ^ k := Nat.le_mul_of_pos_right _ hn
    have hvalue : (digits : ℚ) * (10 : ℚ) ^ k = ((digits <<< 53 : Nat) : ℚ) * 2 ^ (-53 : Int) *
        (((10 ^ k : Nat) : ℚ) * 2 ^ (0 : Int)) := by
      rw [Nat.shiftLeft_eq, zpow_zero, mul_one, zpow_neg]
      push_cast
      rw [mul_inv_cancel_right₀ (by norm_num)]
    rw [hvalue]
    exact isDoubleOf_mul (toModel_ofScientific_of_long hshort hdigits hk hm hn) hbits

/-- Digits over a power of ten. -/
theorem isDoubleOf_ofScientific_neg (hdigits : digits ≠ 0) (hpos : 0 < k)
    (hk : k ≤ 2 ^ 11 + digits.log2) :
    IsDoubleOf (digits / 10 ^ k) (Float.ofScientific digits true k) := by
  by_cases hshort : digits < 2 ^ 53 ∧ k ≤ 22
  · obtain ⟨m, e, hm, hdouble, -, hvalue⟩ := unpack_ofUInt64_exact hdigits hshort.1
    obtain ⟨n, f, hn, hpower, -, hten⟩ :=
      exists_of_isPowerOfTen (isPowerOfTen_table ⟨k, Nat.lt_succ_of_le hshort.2⟩)
    have hmodel : (Float.ofScientific digits true k).toModel = .pack (.div Format.binary64
        (.finite .positive m e hm) (.finite .positive n f hn)) := by
      rw [← hdouble, ← hpower]
      unfold Float.ofScientific
      rw [dif_pos hshort]
      rfl
    rw [← hvalue, ← hten]
    exact isDoubleOf_div hmodel
  · have hm : 0 < digits := Nat.pos_of_ne_zero hdigits
    have hn : 0 < 10 ^ k := Nat.pow_pos (by decide)
    have hvalue : (digits : ℚ) / (10 : ℚ) ^ k = (digits : ℚ) * 2 ^ (0 : Int) /
        (((10 ^ k : Nat) : ℚ) * 2 ^ (0 : Int)) := by
      rw [zpow_zero, mul_one, mul_one]
      push_cast
      rfl
    rw [hvalue]
    exact isDoubleOf_div (toModel_ofScientific_neg_of_long hshort hdigits hpos hk hm hn)

/-- A number below half the least double is rounded to zero. -/
theorem isDoubleOf_zero {q : ℚ} (hq : 0 ≤ q) (hsmall : q < 2 ^ (-1075 : Int)) :
    IsDoubleOf q 0.0 := by
  have hunpack : (0.0 : Float).toModel.unpack = .zero .positive := by rfl
  have hunit : (2 : ℚ) ^ (-1074 : Int) = 2 * 2 ^ (-1075 : Int) := by
    rw [← zpow_one_add₀ two_ne_zero]
    rfl
  have hpos : (0 : ℚ) < 2 ^ (-1075 : Int) := zpow_pos two_pos _
  have hhalf : q / 2 ^ (-1074 : Int) < 0 + 1 / 2 := by
    rw [hunit, div_lt_iff₀ (by positivity)]
    linarith
  have hrounds : RoundsTo (q / 2 ^ (-1074 : Int)) ((0 : Nat) : ℤ) :=
    RoundsTo.floor (by rw [Nat.cast_zero]; positivity) (by rwa [Nat.cast_zero])
  have hunits : RoundsToUnits q 0 (-1074) := ⟨le_rfl, .inl rfl, hrounds⟩
  have hbound : q < overflowBound := by
    calc q < 2 ^ (-1075 : Int) := hsmall
      _ ≤ 2 ^ (970 : Int) := zpow_le_zpow_right₀ one_le_two (by decide)
      _ ≤ overflowBound := by
        rw [overflowBound_eq]
        exact le_mul_of_one_le_left (zpow_pos two_pos _).le (by norm_num)
  refine ⟨fun _ => hunits.nearest ⟨by decide, ?_, fun _ => hasEvenMantissa_of_zero hunpack⟩,
    fun hlarge => absurd hbound hlarge.not_gt⟩
  rw [exact_zero, Nat.cast_zero, zero_mul]

/-- A number has fewer digits than its bits divided by three, and one more. -/
theorem lt_ten_pow (digits : Nat) : (digits : ℚ) < 10 ^ (digits.log2 / 3 + 1) := by
  have hlt : digits < 10 ^ (digits.log2 / 3 + 1) := by
    calc digits < 2 ^ (digits.log2 + 1) := Nat.lt_log2_self
      _ ≤ 2 ^ (3 * (digits.log2 / 3 + 1)) := Nat.pow_le_pow_right Nat.two_pos (by omega)
      _ = 8 ^ (digits.log2 / 3 + 1) := Nat.pow_mul 2 3 _
      _ ≤ 10 ^ (digits.log2 / 3 + 1) := Nat.pow_le_pow_left (by decide) _
  exact_mod_cast hlt

theorem overflowBound_le_ten_pow : (overflowBound : ℚ) ≤ 10 ^ (311 : Int) := by
  have hle : overflowBound ≤ 10 ^ 311 := by decide +kernel
  exact_mod_cast hle

theorem ten_pow_lt_two_pow : (10 : ℚ) ^ (-400 : Int) < 2 ^ (-1075 : Int) := by
  have hlt : 2 ^ 1075 < 10 ^ 400 := by decide +kernel
  rw [zpow_neg, zpow_neg]
  refine inv_strictAnti₀ (zpow_pos two_pos _) ?_
  exact_mod_cast hlt

/-- A decimal becomes its double. -/
theorem isDoubleOf_nearestDouble (digits : Nat) (exponent : Int) :
    IsDoubleOf (digits * 10 ^ exponent) (nearestDouble digits exponent) := by
  have hten : (0 : ℚ) < 10 ^ exponent := zpow_pos (by norm_num) _
  rw [nearestDouble]
  split
  · rename_i hzero
    rw [hzero, Nat.cast_zero, zero_mul]
    exact isDoubleOf_zero le_rfl (zpow_pos two_pos _)
  · rename_i hdigits
    split
    · rename_i hlarge
      have hone : (1 : ℚ) ≤ digits := by exact_mod_cast Nat.pos_of_ne_zero hdigits
      have hpower : (10 : ℚ) ^ (311 : Int) ≤ 10 ^ exponent :=
        zpow_le_zpow_right₀ (by norm_num) (by omega)
      have hle := le_mul_of_one_le_left hten.le hone
      have hedge := overflowBound_le_ten_pow
      exact ⟨fun hbound => absurd hbound (hedge.trans (hpower.trans hle)).not_gt, fun _ => rfl⟩
    · split
      · rename_i hsmall
        refine isDoubleOf_zero (by positivity) ?_
        calc (digits : ℚ) * 10 ^ exponent
            < 10 ^ (digits.log2 / 3 + 1) * 10 ^ exponent :=
              mul_lt_mul_of_pos_right (lt_ten_pow digits) hten
          _ = 10 ^ (((digits.log2 / 3 + 1 : Nat) : Int) + exponent) := by
            rw [zpow_add₀ (by norm_num), zpow_natCast]
          _ ≤ 10 ^ (-400 : Int) := zpow_le_zpow_right₀ (by norm_num) (by omega)
          _ < 2 ^ (-1075 : Int) := ten_pow_lt_two_pow
      · split
        · rename_i hnonneg
          have hpower : (10 : ℚ) ^ exponent = 10 ^ exponent.toNat := by
            rw [← zpow_natCast, Int.toNat_of_nonneg hnonneg]
          rw [hpower]
          exact isDoubleOf_ofScientific hdigits (by omega)
        · have hpower : (digits : ℚ) * 10 ^ exponent = digits / 10 ^ (-exponent).toNat := by
            rw [← zpow_natCast, Int.toNat_of_nonneg (by omega), zpow_neg, div_inv_eq_mul]
          rw [hpower]
          exact isDoubleOf_ofScientific_neg hdigits (by omega) (by omega)

end Numerals

/-- A numeral in range is read as the nearest double. -/
theorem Numeral.nearest_toFloat {n : Numeral} (hbound : |n.value| < overflowBound) :
    Nearest n.value n.toFloat := by
  have hnonneg : (0 : ℚ) ≤ n.digits * 10 ^ n.exponent :=
    mul_nonneg (Nat.cast_nonneg _) (zpow_nonneg (by norm_num) _)
  obtain ⟨negative, digits, exponent⟩ := n
  dsimp only at hnonneg
  cases negative with
  | false =>
    have hvalue : Numeral.value ⟨false, digits, exponent⟩ = digits * 10 ^ exponent := one_mul _
    rw [hvalue] at hbound ⊢
    rw [abs_of_nonneg hnonneg] at hbound
    exact (isDoubleOf_nearestDouble digits exponent).nearest hbound
  | true =>
    have hvalue : Numeral.value ⟨true, digits, exponent⟩ = -(digits * 10 ^ exponent) :=
      neg_one_mul _
    rw [hvalue] at hbound ⊢
    rw [abs_neg, abs_of_nonneg hnonneg] at hbound
    exact ((isDoubleOf_nearestDouble digits exponent).nearest hbound).neg

end Scorecard.Decimal
