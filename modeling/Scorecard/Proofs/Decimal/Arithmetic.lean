import Scorecard.Proofs.Datum
import Scorecard.Proofs.Decimal.Rounding

/-!
# Differences and quotients in range

The difference of two finite doubles is finite exactly if the distance of the numbers they stand for
is below the bound of the range, and infinite otherwise. A quotient by a double that is at least one
leaves the range no further: it is finite if the dividend is, and infinite if the dividend is.
-/

namespace Scorecard.Decimal

open Float.Model (UnpackedFloat Format totalExponent)
open Float.Model.UnpackedFloat

/-! ## The number of a double -/

/-- The number of an unpacked double; zero if it is not finite. -/
def exactUnpacked : UnpackedFloat → ℚ
  | .finite s m e _ => (s.apply m : ℤ) * 2 ^ e
  | .zero _ | .infinity _ | .notANumber => 0

/-- The number that a finite double stands for. -/
def exact (x : Float) : ℚ :=
  exactUnpacked x.toModel.unpack

theorem abs_apply (s : Sign) (m : Nat) : |((s.apply m : ℤ) : ℚ)| = m := by
  cases s with
  | positive => simp [Sign.apply]
  | negative => simp [Sign.apply]

theorem exactUnpacked_zero (s : Sign) : exactUnpacked (.zero s) = 0 :=
  rfl

theorem abs_exactUnpacked_finite (s : Sign) {m : Nat} (e : Int) (h : 0 < m) :
    |exactUnpacked (.finite s m e h)| = m * 2 ^ e := by
  rw [exactUnpacked, abs_mul, abs_apply, abs_of_pos (zpow_pos two_pos e)]

theorem overflowBound_pos : (0 : ℚ) < overflowBound := by
  rw [overflowBound_eq]
  positivity

/-- The largest double. -/
def largest : Nat :=
  (2 ^ 53 - 1) * 2 ^ 971

theorem largest_eq : (largest : ℚ) = (2 ^ 53 - 1) * 2 ^ (971 : ℤ) := by
  rw [largest, Nat.cast_mul, Nat.cast_pow, ← zpow_natCast]
  norm_num

theorem largest_lt_overflowBound : (largest : ℚ) < overflowBound := by
  rw [largest_eq, overflowBound_eq_units]
  exact mul_lt_mul_of_pos_right (by norm_num) (zpow_pos two_pos _)

theorem abs_exact_le (x : Float) : |exact x| ≤ largest := by
  rw [exact]
  cases hx : x.toModel.unpack with
  | notANumber | infinity _ | zero _ =>
    rw [exactUnpacked, abs_zero]
    exact Nat.cast_nonneg largest
  | finite s m e h =>
    obtain ⟨hbits, -, -⟩ := shape_of_unpack hx
    have hexponent := exponent_le_of_unpack hx
    rw [abs_exactUnpacked_finite, largest_eq]
    refine mul_le_mul ?_ (zpow_le_zpow_right₀ one_le_two hexponent) (zpow_pos two_pos e).le
      (by norm_num)
    have hle : (m : ℚ) + 1 ≤ 2 ^ 53 := by exact_mod_cast hbits
    linarith

/-- The number of a finite double is in range. -/
theorem abs_exact_lt (x : Float) : |exact x| < overflowBound :=
  (abs_exact_le x).trans_lt largest_lt_overflowBound

/-! ## Differences -/

theorem normalize_isFinite_iff (m e : Int) (s : Sign) :
    (Float.Model.pack (UnpackedFloat.normalize Format.binary64 m e s)).isFinite = true ↔
      |(m : ℚ) * 2 ^ e| < overflowBound := by
  have habs : |(m : ℚ) * 2 ^ e| = (m.natAbs : ℚ) * 2 ^ e := by
    rw [abs_mul, abs_of_pos (zpow_pos two_pos e : (0 : ℚ) < 2 ^ e), Nat.cast_natAbs, Int.cast_abs]
  rw [habs, UnpackedFloat.normalize]
  rcases Int.lt_trichotomy m 0 with hlt | rfl | hgt
  · rw [Int.compare_eq_lt.2 hlt]
    have hm : (-m).toNat = m.natAbs := by omega
    rw [hm]
    exact round_isFinite_iff .negative (by omega) e
  · refine iff_of_true ?_ ?_
    · rw [Int.compare_eq_eq.2 rfl]
      exact pack_zero_isFinite s
    · rw [Int.natAbs_zero, Nat.cast_zero, zero_mul]
      exact overflowBound_pos
  · rw [Int.compare_eq_gt.2 hgt]
    have hm : m.toNat = m.natAbs := by omega
    rw [hm]
    exact round_isFinite_iff .positive (by omega) e

/-- Zeros at the end of a mantissa leave the number as it is. -/
theorem decreaseExponent_exact (s : Sign) (m : Nat) {e target : Int} (h : target ≤ e) :
    ((s.apply (decreaseExponent m e target).1 : ℤ) : ℚ) * 2 ^ target = (s.apply m : ℤ) * 2 ^ e := by
  have hmantissa : (decreaseExponent m e target).1 = m * 2 ^ (e - target).toNat := by
    rw [decreaseExponent, Nat.shiftLeft_eq]
  have hpower : (2 : ℚ) ^ e = 2 ^ (e - target).toNat * 2 ^ target := by
    rw [← zpow_natCast, ← zpow_add₀ two_ne_zero]
    congr 1
    omega
  rw [hmantissa, hpower]
  cases s with
  | positive =>
    simp only [Sign.apply]
    push_cast
    ring
  | negative =>
    simp only [Sign.apply]
    push_cast
    ring

/-- The difference of two finite doubles is finite exactly if their distance is in range. -/
theorem sub_isFinite_iff {x y : Float} (hx : x.isFinite = true) (hy : y.isFinite = true) :
    (x - y).isFinite = true ↔ |exact x - exact y| < overflowBound := by
  have hsub : (x - y).isFinite = (Float.Model.pack
    (.sub Format.binary64 x.toModel.unpack y.toModel.unpack)).isFinite := rfl
  have hxbound := abs_exact_lt x
  have hybound := abs_exact_lt y
  rw [hsub]
  unfold exact at *
  rcases unpack_of_isFinite hx with ⟨s, hux⟩ | ⟨s, m, e, h, hux⟩
  · rw [hux, exactUnpacked_zero, zero_sub, abs_neg]
    refine iff_of_true ?_ hybound
    rcases unpack_of_isFinite hy with ⟨t, huy⟩ | ⟨t, n, f, h', huy⟩
    · rw [huy]
      cases s <;> cases t <;> rfl
    · rw [huy]
      exact pack_isFinite_iff.2 (exponent_le_of_unpack huy)
  · rcases unpack_of_isFinite hy with ⟨t, huy⟩ | ⟨t, n, f, h', huy⟩
    · rw [hux] at hxbound
      rw [hux, huy, exactUnpacked_zero, sub_zero]
      exact iff_of_true (pack_isFinite_iff.2 (exponent_le_of_unpack hux)) hxbound
    · have hnumber : exactUnpacked (.finite s m e h) - exactUnpacked (.finite t n f h') =
          ((s.apply (decreaseExponent m e (min e f)).1 -
            t.apply (decreaseExponent n f (min e f)).1 : ℤ) : ℚ) * 2 ^ min e f := by
        rw [Int.cast_sub, sub_mul, decreaseExponent_exact s m (min_le_left e f),
          decreaseExponent_exact t n (min_le_right e f), exactUnpacked, exactUnpacked]
      rw [hux, huy, hnumber]
      exact normalize_isFinite_iff _ _ .positive

/-! ## Infinite results -/

/-- A number whose exponent is above that of the largest double is packed as an infinity. -/
theorem pack_of_exponent {s : Sign} {m : Nat} {e : Int} {h : 0 < m} (he : 971 < e) :
    Float.Model.pack (.finite s m e h) = .pack (.infinity s) := by
  have hbiased : 2 ^ Format.binary64.exponentBits ≤ (e + (Format.binary64.exponentBias : Int) +
      (Format.binary64.mantissaBitsWithoutImplicit : Int)).toNat + 1 := by
    change 2048 ≤ (e + 1023 + 52).toNat + 1
    omega
  have hbits : UnpackedFloat.pack Format.binary64 (.finite s m e h) =
      UnpackedFloat.pack Format.binary64 (.infinity s) := by
    simp only [UnpackedFloat.pack, if_pos hbiased]
  simp only [Float.Model.pack, hbits]

/-- What is packed from a number is a number. -/
theorem isNaN_of_unpacked {x : Float} {u : UnpackedFloat} (hx : x.toModel = .pack u)
    (hu : u ≠ .notANumber) : x.isNaN = false := by
  rw [Float.isNaN, hx]
  cases u with
  | notANumber => exact absurd rfl hu
  | infinity s => cases s <;> rfl
  | zero s => cases s <;> rfl
  | finite s m e h =>
    by_cases he : 971 < e
    · rw [pack_of_exponent he]
      cases s <;> rfl
    · have hfinite : x.isFinite = true := by
        rw [Float.isFinite, hx]
        exact pack_isFinite_iff.2 (Int.not_lt.1 he)
      have hnumber := isNaN_eq_false_of_isFinite hfinite
      rwa [Float.isNaN, hx] at hnumber

theorem roundWithAccuracy_ne_notANumber (s : Sign) (m : Nat) (e : Int) (accuracy : Accuracy) :
    roundWithAccuracy Format.binary64 s m e accuracy ≠ .notANumber := by
  simp only [roundWithAccuracy]
  split <;> exact UnpackedFloat.noConfusion

theorem normalize_ne_notANumber (m e : Int) (s : Sign) :
    UnpackedFloat.normalize Format.binary64 m e s ≠ .notANumber := by
  unfold UnpackedFloat.normalize
  split
  · exact roundWithAccuracy_ne_notANumber _ _ _ _
  · exact UnpackedFloat.noConfusion
  · exact roundWithAccuracy_ne_notANumber _ _ _ _

/-- The difference of two finite doubles is a number. -/
theorem sub_isNaN {x y : Float} (hx : x.isFinite = true) (hy : y.isFinite = true) :
    (x - y).isNaN = false := by
  refine isNaN_of_unpacked (u := .sub Format.binary64 x.toModel.unpack y.toModel.unpack) rfl ?_
  rcases unpack_of_isFinite hx with ⟨s, hux⟩ | ⟨s, m, e, h, hux⟩
  · rcases unpack_of_isFinite hy with ⟨t, huy⟩ | ⟨t, n, f, h', huy⟩
    · rw [hux, huy]
      cases s <;> cases t <;> exact UnpackedFloat.noConfusion
    · rw [hux, huy]
      exact UnpackedFloat.noConfusion
  · rcases unpack_of_isFinite hy with ⟨t, huy⟩ | ⟨t, n, f, h', huy⟩
    · rw [hux, huy]
      exact UnpackedFloat.noConfusion
    · rw [hux, huy]
      exact normalize_ne_notANumber _ _ _

/-! ## Quotients -/

/-- A double of magnitude one or more. -/
def AtLeastOne (z : Float) : Prop :=
  ∃ s m e h, z.toModel.unpack = .finite s m e h ∧ m.log2 = 52 ∧ -52 ≤ e

theorem unpack_one_toModel : (1.0 : Float).toModel.unpack =
    .finite .positive (2 ^ 52) (-52) (Nat.two_pow_pos 52) := by
  rfl

theorem atLeastOne_of_not_lt {z : Float} (hfinite : z.isFinite = true) (h : ¬ z < 1.0) :
    AtLeastOne z := by
  have hless : ¬ z.toModel.unpack.lt (1.0 : Float).toModel.unpack = true := by
    intro hlt
    exact h (decide_eq_true hlt)
  rw [unpack_one_toModel] at hless
  rcases unpack_of_isFinite hfinite with ⟨s, hz⟩ | ⟨s, m, e, hm, hz⟩
  · rw [hz] at hless
    exact absurd rfl hless
  · obtain ⟨-, -, hshape⟩ := shape_of_unpack hz
    rw [hz] at hless
    cases s with
    | negative => exact absurd rfl hless
    | positive =>
      have hle : -52 ≤ e := by
        refine Int.not_lt.1 fun hlt => hless ?_
        have hcompare : (compare e (-52)).then (compare m (2 ^ 52)) = .lt := by
          rw [Int.compare_eq_lt.2 hlt]
          rfl
        simp only [UnpackedFloat.lt, UnpackedFloat.compare, hcompare]
        rfl
      exact ⟨_, m, e, hm, hz, hshape.resolve_right (by omega), hle⟩

theorem div_isInf {x z : Float} (hx : x.isInf = true) (hz : AtLeastOne z) :
    (x / z).isInf = true := by
  obtain ⟨s, hs⟩ := isInf_iff_unpack.1 hx
  obtain ⟨t, m, e, h, hunpack, -, -⟩ := hz
  have hdiv : (x / z).isInf = (Float.Model.pack
    (.div Format.binary64 x.toModel.unpack z.toModel.unpack)).isInf := rfl
  rw [hdiv, hs, hunpack]
  change (Float.Model.pack (.infinity (s / t))).isInf = true
  generalize s / t = sign
  cases sign <;> rfl

theorem divCore_eq {m n : Nat} {e f t : Int} {k : Nat}
    (ht : t = min (e - f) (max ((m.log2 + e) - (n.log2 + f) - 53) (-1074)))
    (hk : (k : Int) = e - f - t) :
    divCore Format.binary64 m e n f =
      (m * 2 ^ k / n, t, accuracyOfFraction (m * 2 ^ k % n) n) := by
  have htarget : min (e - f) (Format.binary64.targetExponent
      (totalExponent m e - totalExponent n f)) = t := by
    rw [ht]
    simp only [Format.targetExponent, totalExponent, Format.minExponent, Format.mantissaBits]
    congr 2
    omega
  have hamount : (e - f - t).toNat = k := by omega
  simp only [divCore, htarget, hamount, Nat.shiftLeft_eq]

theorem roundedMantissa_of_roundBit {em : ExtendedMantissa} (h : em.roundBit = false) :
    em.roundedMantissa = em.mantissa := by
  obtain ⟨m, r, s⟩ := em
  obtain rfl : r = false := h
  cases s <;> rfl

/-- Rounding off the last of 54 bits does not carry from an even number. -/
theorem roundedMantissa_shift_one_lt {q : Nat} (hq : q ≤ 2 ^ 54 - 2) (accuracy : Accuracy) :
    (ExtendedMantissa.ofMantissaAndAccuracy q accuracy >>> 1).roundedMantissa < 2 ^ 53 := by
  have hmantissa := mantissa_shiftRight (.ofMantissaAndAccuracy q accuracy) 1
  have hround := roundBit_shiftRight_succ (.ofMantissaAndAccuracy q accuracy) 0
  rw [mantissa_ofMantissaAndAccuracy] at hmantissa hround
  have hbounds := roundedMantissa_bounds (ExtendedMantissa.ofMantissaAndAccuracy q accuracy >>> 1)
  by_cases hfull : q = 2 ^ 54 - 2
  · have heven : (ExtendedMantissa.ofMantissaAndAccuracy q accuracy >>> 1).roundBit = false := by
      rw [hround, hfull]
      rfl
    rw [roundedMantissa_of_roundBit heven, hmantissa]
    omega
  · omega

theorem log2_le_of_mul_le {m q k : Nat} (hm : m ≠ 0) (h : q * 2 ^ 52 ≤ m * 2 ^ k) :
    q.log2 ≤ m.log2 + k - 52 := by
  by_cases hq : q = 0
  · rw [hq, Nat.log2_zero]
    exact Nat.zero_le _
  · have hpower : 2 ^ (q.log2 + 52) ≤ m * 2 ^ k := by
      rw [Nat.pow_add]
      exact (Nat.mul_le_mul_right _ (Nat.log2_self_le hq)).trans h
    have hlog := (Nat.le_log2 (Nat.mul_ne_zero hm (Nat.two_pow_pos k).ne')).2 hpower
    rw [log2_mul_two_pow hm] at hlog
    omega

/-- A quotient by a double of magnitude one or more is finite if the dividend is. -/
theorem div_isFinite {x z : Float} (hx : x.isFinite = true) (hz : AtLeastOne z) :
    (x / z).isFinite = true := by
  obtain ⟨t, n, f, hn, hunpack, hlog, hf⟩ := hz
  have hdiv : (x / z).isFinite = (Float.Model.pack
    (.div Format.binary64 x.toModel.unpack z.toModel.unpack)).isFinite := rfl
  rw [hdiv, hunpack]
  rcases unpack_of_isFinite hx with ⟨s, hux⟩ | ⟨s, m, e, hm, hux⟩
  · rw [hux]
    exact pack_zero_isFinite _
  · rw [hux]
    obtain ⟨hbits, -, -⟩ := shape_of_unpack hux
    have hexponent := exponent_le_of_unpack hux
    have hmlog : m.log2 < 53 := (Nat.log2_lt hm.ne').2 hbits
    obtain ⟨target, htarget⟩ :
        ∃ t : Int, t = min (e - f) (max ((m.log2 + e) - (n.log2 + f) - 53) (-1074)) := ⟨_, rfl⟩
    obtain ⟨k, hk⟩ : ∃ k : Nat, (k : Int) = e - f - target :=
      ⟨(e - f - target).toNat, by omega⟩
    -- The divisor has 53 bits, so the quotient has at most 52 fewer than the dividend.
    have hquotient : m * 2 ^ k / n * 2 ^ 52 ≤ m * 2 ^ k :=
      (Nat.mul_le_mul_left _ ((Nat.log2_eq_iff hn.ne').1 hlog).1).trans (Nat.div_mul_le_self _ _)
    have hqlog := log2_le_of_mul_le hm.ne' hquotient
    change (Float.Model.pack (roundWithAccuracy Format.binary64 (s / t)
      (divCore Format.binary64 m e n f).1 (divCore Format.binary64 m e n f).2.1
      (divCore Format.binary64 m e n f).2.2)).isFinite = true
    rw [divCore_eq htarget hk]
    refine roundWithAccuracy_isFinite _ ?_ fun hedge => ?_
    · dsimp only
      unfold shiftedExponent
      omega
    · dsimp only at hedge ⊢
      have hone : (shiftedExponent (m * 2 ^ k / n) target - target).toNat = 1 := by
        unfold shiftedExponent at *
        omega
      have hk' : k = 53 := by
        unfold shiftedExponent at *
        omega
      rw [shifted, hone]
      refine roundedMantissa_shift_one_lt ?_ _
      rw [hk'] at hquotient ⊢
      omega

/-! ## Variances -/

theorem abs_isFinite (x : Float) : x.abs.isFinite = x.isFinite := by
  have habs : x.abs.isFinite = (Float.Model.pack x.toModel.unpack.abs).isFinite := rfl
  rw [habs]
  unfold Float.isFinite Float.Model.isFinite
  cases hx : x.toModel.unpack with
  | notANumber => rfl
  | infinity s => cases s <;> rfl
  | zero s => cases s <;> rfl
  | finite s m e h => exact pack_isFinite_iff.2 (exponent_le_of_unpack hx)

theorem abs_isInf {x : Float} (h : x.isInf = true) : x.abs.isInf = true := by
  obtain ⟨s, hs⟩ := isInf_iff_unpack.1 h
  have habs : x.abs.isInf = (Float.Model.pack x.toModel.unpack.abs).isInf := rfl
  rw [habs, hs]
  cases s <;> rfl

/-- A double that is finite if the distance of two others is in range, and infinite otherwise. -/
def FiniteByDistance (v x y : Float) : Prop :=
  if |exact x - exact y| < overflowBound then v.isFinite = true else v.isInf = true

theorem FiniteByDistance.symm {v x y : Float} (h : FiniteByDistance v x y) :
    FiniteByDistance v y x := by
  unfold FiniteByDistance at *
  rwa [abs_sub_comm]

/-- What is finite with a double and infinite with it is finite by the same distance. -/
theorem FiniteByDistance.imp {v w x y : Float} (h : FiniteByDistance v x y)
    (hfinite : v.isFinite = true → w.isFinite = true)
    (hinfinite : v.isInf = true → w.isInf = true) :
    FiniteByDistance w x y := by
  unfold FiniteByDistance at *
  split
  · rename_i hdistance
    rw [if_pos hdistance] at h
    exact hfinite h
  · rename_i hdistance
    rw [if_neg hdistance] at h
    exact hinfinite h

/-- A difference is finite by the distance of its operands. -/
theorem sub_finiteByDistance {x y : Float} (hx : x.isFinite = true) (hy : y.isFinite = true) :
    FiniteByDistance (x - y) x y := by
  unfold FiniteByDistance
  split
  · rename_i hdistance
    exact (sub_isFinite_iff hx hy).2 hdistance
  · rename_i hdistance
    have hinfinite := Bool.eq_false_iff.2 (mt (sub_isFinite_iff hx hy).1 hdistance)
    rcases isFinite_eq_false_iff.1 hinfinite with hnan | hinf
    · rw [sub_isNaN hx hy] at hnan
      cases hnan
    · exact hinf

end Scorecard.Decimal
