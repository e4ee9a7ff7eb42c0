import Scorecard.Proofs.Decimal.Special

/-!
# When a rounded number is in range

A number of the form `m * 2 ^ e` is rounded to 53 bits, or to fewer near zero. The result is finite
exactly if the number is below the bound at which the largest double and the next power of two are
equally near; for a mantissa of more bits than are kept it is enough to bound the exponent that the
first shift leaves.
-/

namespace Scorecard.Decimal

open Float.Model (UnpackedFloat Format totalExponent)
open Float.Model.UnpackedFloat

/-! ## What unpacking gives -/

/-- A finite double has 53 bits, or fewer at the lowest exponent. -/
theorem shape_of_unpack {x : Float.Model} {s : Sign} {m : Nat} {e : Int} {h : 0 < m}
    (hx : x.unpack = .finite s m e h) :
    m < 2 ^ 53 ∧ -1074 ≤ e ∧ (m.log2 = 52 ∨ e = -1074) := by
  unfold Float.Model.unpack unpack at hx
  dsimp only at hx
  split at hx
  · split at hx <;> cases hx
  · split at hx
    · split at hx
      · cases hx
      · rename_i hexponent hmantissa
        rw [hexponent] at hx
        cases hx
        exact ⟨Nat.lt_trans (BitVec.isLt _) (by decide), by decide, .inr rfl⟩
    · rename_i hordinary hexponent
      cases hx
      have hpositive : 0 < (@unpackExponent Format.binary64 x.toBits.toBitVec).toNat := by
        refine Nat.pos_of_ne_zero fun hzero => hexponent (BitVec.eq_of_toNat_eq ?_)
        rw [hzero]
        rfl
      refine ⟨BitVec.isLt _, ?_, .inl (log2_implicit _)⟩
      change -1074 ≤ ((@unpackExponent Format.binary64 x.toBits.toBitVec).toNat : Int) - (1023 + 52)
      omega

theorem pack_zero_isFinite (s : Sign) : (Float.Model.pack (.zero s)).isFinite = true := by
  cases s <;> rfl

/-! ## The exponent of a rounded number -/

/-- The exponent of the first shift: the 53 leading bits stay, or fewer near zero. -/
def shiftedExponent (m : Nat) (e : Int) : Int :=
  max e (max (m.log2 + e - 52) (-1074))

/-- The bits that the first shift leaves. -/
def shifted (m : Nat) (e : Int) (accuracy : Accuracy) : ExtendedMantissa :=
  ExtendedMantissa.ofMantissaAndAccuracy m accuracy >>> (shiftedExponent m e - e).toNat

theorem shiftToTargetExponent_eq (m : Nat) (e : Int) (accuracy : Accuracy) :
    shiftToTargetExponent Format.binary64 m e accuracy =
      (shifted m e accuracy, shiftedExponent m e) := by
  have hamount : (max ((m.log2 : Int) + e - 52) (-1074) - e).toNat =
      (shiftedExponent m e - e).toNat := by
    unfold shiftedExponent
    omega
  have hexponent : e + ((shiftedExponent m e - e).toNat : Int) = shiftedExponent m e := by
    unfold shiftedExponent
    omega
  rw [shiftToTargetExponent, targetExponent_eq, shiftToExponent, hamount, hexponent, shifted]

theorem mantissa_ofMantissaAndAccuracy (m : Nat) (accuracy : Accuracy) :
    (ExtendedMantissa.ofMantissaAndAccuracy m accuracy).mantissa = m := by
  cases accuracy with
  | exact => rfl
  | inexact o => cases o <;> rfl

theorem mantissa_shifted (m : Nat) (e : Int) (accuracy : Accuracy) :
    (shifted m e accuracy).mantissa = m / 2 ^ (shiftedExponent m e - e).toNat := by
  rw [shifted, mantissa_shiftRight, mantissa_ofMantissaAndAccuracy]

/-- The first shift leaves 53 bits, and rounding may carry into one more. -/
theorem roundedMantissa_shifted_le (m : Nat) (e : Int) (accuracy : Accuracy) :
    (shifted m e accuracy).roundedMantissa ≤ 2 ^ 53 := by
  have hbits : m < 2 ^ 53 * 2 ^ (shiftedExponent m e - e).toNat := by
    rw [← Nat.pow_add]
    refine Nat.lt_of_lt_of_le Nat.lt_log2_self (Nat.pow_le_pow_right Nat.two_pos ?_)
    unfold shiftedExponent
    omega
  have hmantissa := (Nat.div_lt_iff_lt_mul (Nat.two_pow_pos _)).2 hbits
  rw [← mantissa_shifted m e accuracy] at hmantissa
  exact (roundedMantissa_bounds _).2.trans hmantissa

/-- The second shift only takes the bit that rounding carries into. -/
theorem shiftedExponent_rounded {r : Nat} {e : Int} (hr : r ≤ 2 ^ 53) (he : -1074 ≤ e) :
    shiftedExponent r e ≤ if r < 2 ^ 53 then e else e + 1 := by
  unfold shiftedExponent
  split
  · rename_i hlt
    have hlog : r.log2 < 53 := by
      by_cases hne : r = 0
      · rw [hne, Nat.log2_zero]
        decide
      · exact (Nat.log2_lt hne).2 hlt
    omega
  · rename_i hge
    have hlog : r.log2 = 53 := by rw [Nat.le_antisymm hr (Nat.le_of_not_lt hge), Nat.log2_two_pow]
    omega

/-- A number is rounded to a finite double if the exponent of the first shift is at most that of the
largest double, and less than this if rounding carries. -/
theorem roundWithAccuracy_isFinite (s : Sign) {m : Nat} {e : Int} {accuracy : Accuracy}
    (hexponent : shiftedExponent m e ≤ 971)
    (hcarry : shiftedExponent m e = 971 → (shifted m e accuracy).roundedMantissa < 2 ^ 53) :
    (Float.Model.pack (roundWithAccuracy Format.binary64 s m e accuracy)).isFinite = true := by
  have hlow : -1074 ≤ shiftedExponent m e := by
    unfold shiftedExponent
    omega
  have hsecond := shiftedExponent_rounded (roundedMantissa_shifted_le m e accuracy) hlow
  simp only [roundWithAccuracy, shiftToTargetExponent_eq]
  split
  · exact pack_zero_isFinite s
  · refine pack_isFinite_iff.2 (hsecond.trans ?_)
    split
    · exact hexponent
    · rename_i hfull
      have := mt hcarry hfull
      omega

/-! ## The exact bound -/

/-- Rounding a number of 53 bits or more carries exactly if its 54 leading bits are all set. -/
theorem carry_eq_zero_iff_lt {m : Nat} (hm : 52 ≤ m.log2) :
    carry m = 0 ↔ 2 * m < (2 ^ 54 - 1) * 2 ^ (m.log2 - 52) := by
  have hcarry : carry m = 0 ↔ leading m < 2 ^ 53 := by
    unfold carry
    split <;> simp_all
  have hne := ne_zero_of_le_log2 (by decide) hm
  rw [hcarry]
  rcases Nat.eq_or_lt_of_le hm with hlog | hlog
  · have hbits := (Nat.log2_eq_iff hne).1 hlog.symm
    have hleading : leading m = m := by
      rw [leading, ← hlog]
      rfl
    rw [hleading, ← hlog]
    omega
  · have hpower : 2 ^ (m.log2 - 52) = 2 * 2 ^ (m.log2 - 53) := by
      rw [← Nat.pow_succ']
      congr 1
      omega
    rw [leading_lt_iff hlog, Nat.div_lt_iff_lt_mul (Nat.two_pow_pos _), hpower]
    omega

theorem overflowBound_eq : (overflowBound : ℚ) = (2 ^ 54 - 1) * 2 ^ (970 : ℤ) := by
  rw [overflowBound, halfStep, Nat.cast_mul, Nat.cast_pow, ← zpow_natCast]
  norm_num

/-- The bound is half a unit of the largest double below `2 ^ 53` of them. -/
theorem overflowBound_eq_units : (overflowBound : ℚ) = (2 ^ 53 - 1 / 2) * 2 ^ (971 : ℤ) := by
  have hstep : (2 : ℚ) ^ (971 : ℤ) = 2 * 2 ^ (970 : ℤ) := by
    rw [← zpow_one_add₀ two_ne_zero]
    rfl
  rw [overflowBound_eq, hstep]
  ring

/-- The powers of two around a number. -/
theorem mul_two_zpow_bounds {m : Nat} (hm : m ≠ 0) (e : Int) :
    (2 : ℚ) ^ (m.log2 + e) ≤ m * 2 ^ e ∧ (m : ℚ) * 2 ^ e < 2 ^ (m.log2 + e + 1) := by
  have htwo : (2 : ℚ) ≠ 0 := two_ne_zero
  have hpos : (0 : ℚ) < 2 ^ e := zpow_pos two_pos e
  have hlow : (2 : ℚ) ^ m.log2 ≤ m := by exact_mod_cast Nat.log2_self_le hm
  have hhigh : (m : ℚ) < 2 ^ (m.log2 + 1) := by exact_mod_cast Nat.lt_log2_self
  constructor
  · rw [zpow_add₀ htwo, zpow_natCast]
    exact mul_le_mul_of_nonneg_right hlow hpos.le
  · rw [add_right_comm, zpow_add₀ htwo, ← Nat.cast_succ, zpow_natCast]
    exact mul_lt_mul_of_pos_right hhigh hpos

theorem lt_overflowBound_of_log2 {m : Nat} (hm : m ≠ 0) {e : Int} (h : m.log2 + e ≤ 1022) :
    (m : ℚ) * 2 ^ e < overflowBound := by
  calc (m : ℚ) * 2 ^ e < 2 ^ (m.log2 + e + 1) := (mul_two_zpow_bounds hm e).2
    _ ≤ 2 ^ (1023 : ℤ) := zpow_le_zpow_right₀ one_le_two (by omega)
    _ = 2 ^ 53 * 2 ^ (970 : ℤ) := by
      rw [← zpow_natCast, ← zpow_add₀ two_ne_zero]
      rfl
    _ ≤ overflowBound := by
      rw [overflowBound_eq]
      exact mul_le_mul_of_nonneg_right (by norm_num) (zpow_pos two_pos _).le

theorem overflowBound_le_of_log2 {m : Nat} (hm : m ≠ 0) {e : Int} (h : 1024 ≤ m.log2 + e) :
    (overflowBound : ℚ) ≤ m * 2 ^ e := by
  calc (overflowBound : ℚ) ≤ 2 ^ 54 * 2 ^ (970 : ℤ) := by
        rw [overflowBound_eq]
        exact mul_le_mul_of_nonneg_right (by norm_num) (zpow_pos two_pos _).le
    _ = 2 ^ (1024 : ℤ) := by
      rw [← zpow_natCast, ← zpow_add₀ two_ne_zero]
      rfl
    _ ≤ 2 ^ (m.log2 + e) := zpow_le_zpow_right₀ one_le_two h
    _ ≤ m * 2 ^ e := (mul_two_zpow_bounds hm e).1

/-- At the exponent of the largest double the bound is on the leading bits. -/
theorem lt_overflowBound_iff_of_log2 {m : Nat} (hm : 52 ≤ m.log2) {e : Int}
    (h : m.log2 + e = 1023) :
    (m : ℚ) * 2 ^ e < overflowBound ↔ 2 * m < (2 ^ 54 - 1) * 2 ^ (m.log2 - 52) := by
  have hshift : (2 : ℚ) ^ (970 : ℤ) = 2 ^ (e - 1) * 2 ^ (m.log2 - 52) := by
    rw [← zpow_natCast, ← zpow_add₀ two_ne_zero]
    congr 1
    omega
  have hstep : (2 : ℚ) ^ e = 2 ^ (e - 1) * 2 := by
    rw [← zpow_add_one₀ two_ne_zero, sub_add_cancel]
  have hpos : (0 : ℚ) < 2 ^ (e - 1) := zpow_pos two_pos _
  have hnumber : (m : ℚ) * 2 ^ e = 2 ^ (e - 1) * (2 * m) := by
    rw [hstep]
    ring
  have hbound : (overflowBound : ℚ) = 2 ^ (e - 1) * ((2 ^ 54 - 1) * 2 ^ (m.log2 - 52)) := by
    rw [overflowBound_eq, hshift]
    ring
  rw [hnumber, hbound, mul_lt_mul_iff_right₀ hpos]
  have hcast : ((2 ^ 54 - 1) * 2 ^ (m.log2 - 52) : ℚ) =
      (((2 ^ 54 - 1) * 2 ^ (m.log2 - 52) : Nat) : ℚ) := by
    push_cast
    norm_num
  rw [hcast]
  exact_mod_cast Iff.rfl

/-- A number is rounded to a finite double exactly if it is below the bound. -/
theorem round_isFinite_iff (s : Sign) {m : Nat} (hm : m ≠ 0) (e : Int) :
    (Float.Model.pack (UnpackedFloat.round Format.binary64 s m e)).isFinite = true ↔
      (m : ℚ) * 2 ^ e < overflowBound := by
  -- The mantissa is first brought to 53 bits by zeros, which leaves the number as it is.
  obtain ⟨k, hk⟩ : ∃ k : Nat, k = (e - max ((m.log2 : Int) + e - 52) (-1074)).toNat := ⟨_, rfl⟩
  have hround : UnpackedFloat.round Format.binary64 s m e =
      roundWithAccuracy Format.binary64 s (m * 2 ^ k) (e - k) .exact := by
    rw [UnpackedFloat.round, targetExponent_eq, decreaseExponent, ← hk, Nat.shiftLeft_eq]
  have hvalue : (m : ℚ) * 2 ^ e = (m * 2 ^ k : Nat) * 2 ^ (e - k) := by
    rw [Nat.cast_mul, Nat.cast_pow, Nat.cast_ofNat, mul_assoc, ← zpow_natCast,
      ← zpow_add₀ two_ne_zero, add_sub_cancel]
  have hlog := log2_mul_two_pow hm k
  have hne : m * 2 ^ k ≠ 0 := Nat.mul_ne_zero hm (Nat.two_pow_pos k).ne'
  rw [hround, hvalue]
  by_cases hnormal : -1022 ≤ (m.log2 : Int) + e
  · have hbits : 52 ≤ (m * 2 ^ k).log2 := by omega
    obtain ⟨m', h', -, heq⟩ := roundWithAccuracy_eq s (e - k) hbits (by omega)
    have hcarry := carry_bounds (m * 2 ^ k)
    rw [heq, pack_isFinite_iff]
    rcases Int.lt_trichotomy ((m * 2 ^ k).log2 + (e - k)) 1023 with hlt | hedge | hgt
    · exact iff_of_true (by omega) (lt_overflowBound_of_log2 hne (by omega))
    · rw [lt_overflowBound_iff_of_log2 hbits hedge, ← carry_eq_zero_iff_lt hbits]
      omega
    · exact iff_of_false (by omega) (overflowBound_le_of_log2 hne (by omega)).not_gt
  · have hexponent : shiftedExponent (m * 2 ^ k) (e - k) ≤ 970 := by
      unfold shiftedExponent
      omega
    refine iff_of_true (roundWithAccuracy_isFinite s (by omega) (by omega)) ?_
    exact lt_overflowBound_of_log2 hne (by omega)

end Scorecard.Decimal
