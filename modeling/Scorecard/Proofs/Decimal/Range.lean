import Mathlib
import Scorecard.Datum

/-!
# The range of doubles

A whole number has a double if its nearest double is finite. Rounding keeps the 53 leading bits and
may carry into a further bit, which adds one to the exponent, and a number is packed as an infinity
if its exponent is then too large. So the range ends at a whole number that is halfway between the
largest double and the next power of two, on both sides of zero.

That a double is packed from what it is unpacked to (`pack_unpack_of_valid`), and when two doubles
are equal, is known to Batteries in a file that no part of Mathlib imports. So this module takes the
library as a whole, and the modules on doubles take it from here.
-/

namespace Scorecard.Decimal

open Float.Model (UnpackedFloat Format totalExponent)
open Float.Model.UnpackedFloat

/-! ## Rounding -/

theorem mantissa_shiftRight (em : ExtendedMantissa) (k : Nat) :
    (em >>> k).mantissa = em.mantissa / 2 ^ k := by
  induction k with
  | zero => simp [HShiftRight.hShiftRight, Nat.repeat]
  | succ k ih =>
    have hstep : (em >>> (k + 1)).mantissa = (em >>> k).mantissa / 2 := rfl
    rw [hstep, ih, Nat.div_div_eq_div_mul, Nat.pow_succ]

theorem roundBit_shiftRight_succ (em : ExtendedMantissa) (k : Nat) :
    (em >>> (k + 1)).roundBit = (em.mantissa / 2 ^ k % 2 != 0) := by
  have hstep : (em >>> (k + 1)).roundBit = ((em >>> k).mantissa % 2 != 0) := rfl
  rw [hstep, mantissa_shiftRight]

theorem roundedMantissa_bounds (em : ExtendedMantissa) :
    em.mantissa ≤ em.roundedMantissa ∧ em.roundedMantissa ≤ em.mantissa + 1 := by
  obtain ⟨m, r, s⟩ := em
  cases r <;> cases s <;>
    simp [ExtendedMantissa.roundedMantissa, ExtendedMantissa.accuracy, Accuracy.roundToNearestEven]
  omega

theorem roundedMantissa_of_odd {em : ExtendedMantissa} (h : em.mantissa % 2 = 1) :
    em.roundedMantissa = em.mantissa + em.roundBit.toNat := by
  obtain ⟨m, r, s⟩ := em
  cases r <;> cases s <;>
    simp_all [ExtendedMantissa.roundedMantissa, ExtendedMantissa.accuracy,
      Accuracy.roundToNearestEven]

theorem targetExponent_eq (m : Nat) (e : Int) :
    Format.binary64.targetExponent (totalExponent m e) = max (m.log2 + e - 52) (-1074) := by
  simp only [Format.targetExponent, totalExponent, Format.minExponent, Format.mantissaBits]
  congr 1
  omega

/-- The 53 leading bits of a whole number, rounded by those that follow. -/
def leading (m : Nat) : Nat :=
  (ExtendedMantissa.mk m false false >>> (m.log2 - 52)).roundedMantissa

theorem ne_zero_of_le_log2 {m k : Nat} (hk : 0 < k) (hm : k ≤ m.log2) : m ≠ 0 := by
  rintro rfl
  rw [Nat.log2_zero] at hm
  omega

/-- The leading bits of a whole number. -/
theorem div_two_pow_bounds {m k : Nat} (hne : m ≠ 0) (hm : k ≤ m.log2) :
    2 ^ k ≤ m / 2 ^ (m.log2 - k) ∧ m / 2 ^ (m.log2 - k) < 2 ^ (k + 1) := by
  rw [Nat.le_div_iff_mul_le (Nat.two_pow_pos _), Nat.div_lt_iff_lt_mul (Nat.two_pow_pos _),
    ← Nat.pow_add, ← Nat.pow_add]
  have hlow : k + (m.log2 - k) = m.log2 := by omega
  have hhigh : k + 1 + (m.log2 - k) = m.log2 + 1 := by omega
  rw [hlow, hhigh]
  exact ⟨Nat.log2_self_le hne, Nat.lt_log2_self⟩

theorem leading_bounds {m : Nat} (hm : 52 ≤ m.log2) : 2 ^ 52 ≤ leading m ∧ leading m ≤ 2 ^ 53 := by
  obtain ⟨hlow, hhigh⟩ := div_two_pow_bounds (ne_zero_of_le_log2 (by decide) hm) hm
  have hround := roundedMantissa_bounds (ExtendedMantissa.mk m false false >>> (m.log2 - 52))
  rw [mantissa_shiftRight] at hround
  exact ⟨hlow.trans hround.1, hround.2.trans hhigh⟩

/-- Rounding carries into a further bit exactly if the 54 leading bits are all set. -/
theorem leading_lt_iff {m : Nat} (hm : 53 ≤ m.log2) :
    leading m < 2 ^ 53 ↔ m / 2 ^ (m.log2 - 53) < 2 ^ 54 - 1 := by
  obtain ⟨hlow, hhigh⟩ := div_two_pow_bounds (ne_zero_of_le_log2 (by decide) hm) hm
  have hshift : m.log2 - 52 = (m.log2 - 53) + 1 := by omega
  have hmantissa := mantissa_shiftRight ⟨m, false, false⟩ (m.log2 - 53 + 1)
  have hround := roundBit_shiftRight_succ ⟨m, false, false⟩ (m.log2 - 53)
  rw [Nat.pow_succ, ← Nat.div_div_eq_div_mul] at hmantissa
  rw [leading, hshift]
  generalize m / 2 ^ (m.log2 - 53) = w at *
  generalize ExtendedMantissa.mk m false false >>> (m.log2 - 53 + 1) = em at *
  have hbounds := roundedMantissa_bounds em
  by_cases hodd : em.mantissa % 2 = 1
  · have hrounded := roundedMantissa_of_odd hodd
    rw [hround] at hrounded
    rcases Nat.mod_two_eq_zero_or_one w with hw | hw
    · rw [hw] at hrounded
      change em.roundedMantissa = em.mantissa + 0 at hrounded
      omega
    · rw [hw] at hrounded
      change em.roundedMantissa = em.mantissa + 1 at hrounded
      omega
  · omega

/-- What rounding adds to the exponent. -/
def carry (m : Nat) : Int :=
  if leading m < 2 ^ 53 then 0 else 1

theorem carry_bounds (m : Nat) : 0 ≤ carry m ∧ carry m ≤ 1 := by
  unfold carry
  split <;> decide

/-- A mantissa of 53 bits is not moved. -/
theorem shift_of_log2 {m : Nat} {e : Int} (hm : m.log2 = 52) (he : -1074 ≤ e) :
    shiftToTargetExponent Format.binary64 m e .exact = (⟨m, false, false⟩, e) := by
  have htarget : Format.binary64.targetExponent (totalExponent m e) = e := by
    rw [targetExponent_eq, hm]
    omega
  have hstay : (e - e).toNat = 0 := by omega
  rw [shiftToTargetExponent, htarget, shiftToExponent, hstay]
  simp [HShiftRight.hShiftRight, Nat.repeat, ExtendedMantissa.ofMantissaAndAccuracy]

/-- A mantissa that rounding has carried to 54 bits is moved by one. -/
theorem shift_of_carry {e : Int} (he : -1074 ≤ e) :
    shiftToTargetExponent Format.binary64 (2 ^ 53) e .exact =
      (⟨2 ^ 52, false, false⟩, e + 1) := by
  have htarget : Format.binary64.targetExponent (totalExponent (2 ^ 53) e) = e + 1 := by
    rw [targetExponent_eq, Nat.log2_two_pow]
    omega
  have hone : (e + 1 - e).toNat = 1 := by omega
  rw [shiftToTargetExponent, htarget, shiftToExponent, hone]
  simp [HShiftRight.hShiftRight, Nat.repeat, ExtendedMantissa.ofMantissaAndAccuracy,
    ExtendedMantissa.shiftRightOne]

theorem roundWithAccuracy_of_shifts {s : Sign} {m : Nat} {e e₁ e₂ : Int}
    {em₁ em₂ : ExtendedMantissa}
    (hfirst : shiftToTargetExponent Format.binary64 m e .exact = (em₁, e₁))
    (hsecond : shiftToTargetExponent Format.binary64 em₁.roundedMantissa e₁ .exact = (em₂, e₂))
    (hne : em₂.mantissa ≠ 0) :
    roundWithAccuracy Format.binary64 s m e .exact =
      .finite s em₂.mantissa e₂ (Nat.pos_of_ne_zero hne) := by
  simp only [roundWithAccuracy, hfirst, hsecond, hne, dite_false]

/-- Rounding a normal number gives 53 bits, and an exponent that is one more after a carry. -/
theorem roundWithAccuracy_eq (s : Sign) {m : Nat} (e : Int) (hm : 52 ≤ m.log2)
    (he : -1022 ≤ m.log2 + e) :
    ∃ m' h, m'.log2 = 52 ∧ roundWithAccuracy Format.binary64 s m e .exact =
        .finite s m' (m.log2 + e - 52 + carry m) h := by
  have hfirst : shiftToTargetExponent Format.binary64 m e .exact =
      (ExtendedMantissa.mk m false false >>> (m.log2 - 52), m.log2 + e - 52) := by
    have hmax : max ((m.log2 : Int) + e - 52) (-1074) = m.log2 + e - 52 := by omega
    have hshift : ((m.log2 : Int) + e - 52 - e).toNat = m.log2 - 52 := by omega
    have hexponent : e + ((m.log2 - 52 : Nat) : Int) = m.log2 + e - 52 := by omega
    rw [shiftToTargetExponent, targetExponent_eq, hmax, shiftToExponent, hshift, hexponent]
    rfl
  have htarget : -1074 ≤ (m.log2 : Int) + e - 52 := by omega
  obtain ⟨hlow, hhigh⟩ := leading_bounds hm
  by_cases hcarry : leading m < 2 ^ 53
  · have hne : leading m ≠ 0 := by omega
    have hlog : (leading m).log2 = 52 := (Nat.log2_eq_iff hne).2 ⟨hlow, hcarry⟩
    rw [carry, if_pos hcarry, Int.add_zero]
    exact ⟨leading m, Nat.pos_of_ne_zero hne, hlog,
      roundWithAccuracy_of_shifts hfirst (shift_of_log2 hlog htarget) hne⟩
  · have hfull : (ExtendedMantissa.mk m false false >>> (m.log2 - 52)).roundedMantissa = 2 ^ 53 :=
      Nat.le_antisymm hhigh (Nat.le_of_not_lt hcarry)
    have hsecond := shift_of_carry htarget
    rw [← hfull] at hsecond
    rw [carry, if_neg hcarry]
    exact ⟨2 ^ 52, Nat.two_pow_pos 52, Nat.log2_two_pow,
      roundWithAccuracy_of_shifts hfirst hsecond (Nat.two_pow_pos 52).ne'⟩

/-! ## Packing -/

/-- The field of the exponent in the bits of a double. -/
def exponentField (x : Float.Model) : BitVec 11 :=
  @unpackExponent Format.binary64 x.toBits.toBitVec

theorem isFinite_iff_exponentField (x : Float.Model) :
    x.isFinite = true ↔ exponentField x ≠ -1#11 := by
  unfold Float.Model.isFinite Float.Model.unpack unpack exponentField
  dsimp only
  split
  · split <;> simp_all [isFinite]
  · split
    · split <;> simp_all [isFinite]
    · simp_all [isFinite]

/-- A finite number is packed with its exponent, or as an infinity if that is too large. -/
theorem exponentField_pack {s : Sign} {m : Nat} {e : Int} {h : 0 < m} :
    exponentField (.pack (.finite s m e h)) =
      if 971 < e then -1#11
      else if m.log2 = 52 then BitVec.ofNat 11 (e + 1075).toNat
      else 0#11 := by
  have hbiased : (e + (Format.binary64.exponentBias : Int) +
      (Format.binary64.mantissaBitsWithoutImplicit : Int)).toNat = (e + 1075).toNat := by
    change (e + 1023 + 52).toNat = _
    omega
  have hbits : m.log2 + 1 = Format.binary64.mantissaBits ↔ m.log2 = 52 := by
    change m.log2 + 1 = 53 ↔ _
    omega
  have hinfinite : 2 ^ Format.binary64.exponentBits ≤ (e + 1075).toNat + 1 ↔ 971 < e := by
    change 2048 ≤ _ ↔ _
    omega
  unfold exponentField Float.Model.pack
  simp only [UnpackedFloat.pack, hbiased, hbits, hinfinite]
  split
  · exact unpackExponent_packComponents
  · split
    · exact unpackExponent_packComponents
    · exact unpackExponent_packComponents

theorem pack_isFinite_iff {s : Sign} {m : Nat} {e : Int} {h : 0 < m} :
    (Float.Model.pack (.finite s m e h)).isFinite = true ↔ e ≤ 971 := by
  rw [isFinite_iff_exponentField, exponentField_pack]
  split
  · rename_i hgt
    exact ⟨fun hne => absurd rfl hne, fun hle => absurd hle (Int.not_le.2 hgt)⟩
  · rename_i hle
    have hne : BitVec.ofNat 11 (e + 1075).toNat ≠ -1#11 := by
      intro heq
      have hnat := congrArg BitVec.toNat heq
      change (e + 1075).toNat % 2048 = 2047 at hnat
      omega
    have hzero : 0#11 ≠ -1#11 := by decide
    refine ⟨fun _ => Int.not_lt.1 hle, fun _ => ?_⟩
    split <;> assumption

theorem pack_of_unpack (x : Float.Model) : .pack x.unpack = x := by
  obtain ⟨bits, hvalid⟩ := x
  have hbits : UnpackedFloat.pack Format.binary64 (unpack Format.binary64 bits.toBitVec) =
      bits.toBitVec := pack_unpack_of_valid hvalid
  simp only [Float.Model.pack, Float.Model.unpack, hbits]

theorem exponent_le_of_unpack {x : Float.Model} {s : Sign} {m : Nat} {e : Int} {h : 0 < m}
    (hx : x.unpack = .finite s m e h) : e ≤ 971 := by
  have hfinite : x.isFinite = true := by
    rw [Float.Model.isFinite, hx]
    rfl
  rw [← pack_of_unpack x, hx] at hfinite
  exact pack_isFinite_iff.1 hfinite

theorem log2_implicit (v : BitVec 52) : (1#1 ++ v).toNat.log2 = 52 := by
  have hlow : 2 ^ 52 ≤ (1#1 ++ v).toNat := by
    rw [BitVec.toNat_append]
    exact Nat.left_le_or
  have hhigh : (1#1 ++ v).toNat < 2 ^ 53 := (1#1 ++ v).isLt
  exact (Nat.log2_eq_iff (by omega)).2 ⟨hlow, hhigh⟩

/-- A number of 53 bits in the range of doubles is unpacked with its exponent. -/
theorem unpack_pack {u : UnpackedFloat} {s : Sign} {m : Nat} {e : Int} {h : 0 < m}
    (hu : u = .finite s m e h) (hm : m.log2 = 52) (hlow : -1074 ≤ e) (hhigh : e ≤ 971) :
    ∃ s' m' h', m'.log2 = 52 ∧ (Float.Model.pack u).unpack = .finite s' m' e h' := by
  rw [hu]
  have hfield : exponentField (.pack (.finite s m e h)) = _ := exponentField_pack
  rw [if_neg (Int.not_lt.2 hhigh), if_pos hm] at hfield
  generalize Float.Model.pack (.finite s m e h) = x at hfield ⊢
  have hnat : (exponentField x).toNat = (e + 1075).toNat := by
    rw [hfield, BitVec.toNat_ofNat]
    omega
  have hordinary : exponentField x ≠ -1#11 := by
    intro heq
    rw [heq] at hnat
    change 2047 = _ at hnat
    omega
  have hnormal : exponentField x ≠ 0#11 := by
    intro heq
    rw [heq] at hnat
    change 0 = _ at hnat
    omega
  have hexponent : ((exponentField x).toNat : Int) - (1023 + 52) = e := by omega
  have hunpack : x.unpack = _ := (if_neg hordinary).trans (if_neg hnormal)
  rw [hunpack, ← hexponent]
  exact ⟨_, _, _, log2_implicit _, rfl⟩

/-! ## Whole numbers -/

theorem isFinite_neg (x : Float) : x.neg.isFinite = x.isFinite := by
  unfold Float.neg Float.isFinite
  change (Float.Model.pack x.toModel.unpack.neg).isFinite = x.toModel.unpack.isFinite
  cases hx : x.toModel.unpack with
  | notANumber => rfl
  | infinity s => cases s <;> rfl
  | zero s => cases s <;> rfl
  | finite s m e h => exact pack_isFinite_iff.2 (exponent_le_of_unpack hx)

theorem log2_mul_two_pow {n : Nat} (hn : n ≠ 0) (k : Nat) :
    (n * 2 ^ k).log2 = n.log2 + k := by
  induction k with
  | zero => rw [Nat.pow_zero, Nat.mul_one, Nat.add_zero]
  | succ k ih =>
    have hdouble : n * 2 ^ (k + 1) = 2 * (n * 2 ^ k) := by
      rw [Nat.pow_succ, ← Nat.mul_assoc, Nat.mul_comm]
    have hne : n * 2 ^ k ≠ 0 := Nat.mul_ne_zero hn (Nat.two_pow_pos k).ne'
    rw [hdouble, Nat.log2_two_mul hne, ih, Nat.add_assoc]

theorem unpack_one : (Float.Model.ofBits 0x3FF0000000000000).unpack =
    .finite .positive (2 ^ 52) (-52) (Nat.two_pow_pos 52) := by
  rfl

/-- A whole number of at most 53 bits is brought to 53 bits by zeros and then rounded. -/
theorem ofUInt64_eq_roundWithAccuracy {n : Nat} (hne : n ≠ 0) (hn : n < 2 ^ 53) :
    UnpackedFloat.ofUInt64 Format.binary64 n.toUInt64 =
      roundWithAccuracy Format.binary64 .positive (n * 2 ^ (52 - n.log2))
        (0 - (52 - n.log2 : Nat)) .exact := by
  have hlog : n.log2 < 53 := (Nat.log2_lt hne).2 hn
  have hexponent : Format.binary64.targetExponent (totalExponent n 0) = n.log2 - 52 := by
    rw [targetExponent_eq]
    omega
  have hshift : ((0 : Int) - (n.log2 - 52)).toNat = 52 - n.log2 := by omega
  have hnat : n.toUInt64.toNat = n := by
    rw [Nat.toUInt64_eq, UInt64.toNat_ofNat']
    omega
  have hpositive : compare (n : Int) 0 = .gt := Int.compare_eq_gt.2 (by omega)
  rw [UnpackedFloat.ofUInt64, UnpackedFloat.ofNat, UnpackedFloat.ofInt, hnat,
    UnpackedFloat.normalize, hpositive]
  dsimp only
  rw [Int.toNat_natCast, UnpackedFloat.round, hexponent, decreaseExponent, hshift,
    Nat.shiftLeft_eq]

/-- A whole number of at most 53 bits as a double: 53 bits with an exponent that is not large. -/
theorem unpack_ofUInt64 {n : Nat} (hne : n ≠ 0) (hn : n < 2 ^ 53) :
    ∃ s m e h, (Float.Model.ofUInt64 n.toUInt64).unpack = .finite s m e h ∧ m.log2 = 52 ∧
      -52 ≤ e ∧ e ≤ 1 := by
  have hlog : n.log2 < 53 := (Nat.log2_lt hne).2 hn
  have hmodel := ofUInt64_eq_roundWithAccuracy hne hn
  have hshifted : (n * 2 ^ (52 - n.log2)).log2 = 52 := by
    rw [log2_mul_two_pow hne]
    omega
  obtain ⟨m, h, hm, hround⟩ :=
    roundWithAccuracy_eq .positive (0 - (52 - n.log2 : Nat)) (ge_of_eq hshifted) (by omega)
  have hcarry := carry_bounds (n * 2 ^ (52 - n.log2))
  rw [← hmodel, hshifted] at hround
  obtain ⟨s', m', h', hm', hunpack⟩ := unpack_pack hround hm (by omega) (by omega)
  exact ⟨s', m', _, h', hunpack, hm', by omega, by omega⟩

/-- Half of the distance between the largest doubles. -/
def halfStep : Nat :=
  2 ^ 970

theorem halfStep_pos : 0 < halfStep :=
  pow_pos Nat.two_pos 970

/-- The least whole number that is out of the range of doubles. It lies halfway between the largest
double and the next power of two. -/
def overflowBound : Nat :=
  (2 ^ 54 - 1) * halfStep

theorem ofNat_isFinite_of_lt {n : Nat} (hn : n < 2 ^ 53) : (Float.ofNat n).isFinite = true := by
  have hmodel : (Float.ofNat n).toModel =
      .mul (.ofUInt64 n.toUInt64) (.ofBits 0x3FF0000000000000) := by
    unfold Float.ofNat
    change (Float.ofScientific n false 0).toModel = _
    unfold Float.ofScientific
    rw [dif_pos ⟨hn, Nat.zero_le 22⟩]
    rfl
  rw [Float.isFinite, hmodel, Float.Model.mul, unpack_one]
  by_cases hne : n = 0
  · rw [hne]
    rfl
  · obtain ⟨s, m, e, h, hunpack, hm, hlow, hhigh⟩ := unpack_ofUInt64 hne hn
    rw [hunpack]
    have hproduct := log2_mul_two_pow h.ne' 52
    obtain ⟨m', h', -, hround⟩ :=
      roundWithAccuracy_eq (s * .positive) (e + -52) (m := m * 2 ^ 52) (by omega) (by omega)
    have hcarry := carry_bounds (m * 2 ^ 52)
    rw [UnpackedFloat.mul, hround, pack_isFinite_iff]
    omega

theorem div_halfStep_lt_iff {n k : Nat} (hne : n ≠ 0) :
    n / halfStep < 2 ^ k ↔ n.log2 < k + 970 := by
  rw [Nat.div_lt_iff_lt_mul halfStep_pos, halfStep, ← pow_add, Nat.log2_lt hne]

theorem lt_overflowBound_iff {n : Nat} (hne : n ≠ 0) :
    n < overflowBound ↔ n.log2 ≤ 1022 ∨ n.log2 = 1023 ∧ n / halfStep < 2 ^ 54 - 1 := by
  have hbelow : n / halfStep < 2 ^ 53 ↔ n.log2 < 53 + 970 := div_halfStep_lt_iff hne
  have hwithin : n / halfStep < 2 ^ 54 ↔ n.log2 < 54 + 970 := div_halfStep_lt_iff hne
  rw [overflowBound, ← Nat.div_lt_iff_lt_mul halfStep_pos]
  omega

/-- A number with 1024 bits is carried out of the range exactly if its 54 leading bits are set. -/
theorem carry_eq_zero_iff {n : Nat} (hn : n.log2 = 1023) :
    carry (n * 2 ^ 53) = 0 ↔ n / halfStep < 2 ^ 54 - 1 := by
  have hne : n ≠ 0 := ne_zero_of_le_log2 (by decide) hn.ge
  have hlog : (n * 2 ^ 53).log2 = 1076 := by rw [log2_mul_two_pow hne, hn]
  have hcarry : carry (n * 2 ^ 53) = 0 ↔ leading (n * 2 ^ 53) < 2 ^ 53 := by
    unfold carry
    split <;> simp_all
  have hdiv : n * 2 ^ 53 / 2 ^ (1076 - 53) = n / halfStep := by
    have hexp : 1076 - 53 = 970 + 53 := rfl
    rw [hexp, pow_add, Nat.mul_div_mul_right _ _ (Nat.two_pow_pos 53), halfStep]
  rw [hcarry, leading_lt_iff (by omega), hlog, hdiv]

/-- A whole number of 54 bits or more is rounded once. -/
theorem toModel_ofNat {n : Nat} (hn : ¬ n < 2 ^ 53) : (Float.ofNat n).toModel =
    .pack (roundWithAccuracy Format.binary64 .positive (n * 2 ^ 53) (-53) .exact) := by
  have hne : n ≠ 0 := by omega
  unfold Float.ofNat
  change (Float.ofScientific n false 0).toModel = _
  unfold Float.ofScientific
  rw [dif_neg fun h => hn h.1]
  change Float.Model.pack (UnpackedFloat.ofScientific Format.binary64 n 0) = _
  have hlow : ¬ (0 : Int) < -((2 ^ Format.binary64.exponentBits : Int) + n.log2) := by
    change ¬ (0 : Int) < -(2048 + n.log2)
    omega
  have hexact : n <<< 53 * 10 ^ Int.toNat 0 = n * 2 ^ 53 := by
    rw [Int.toNat_zero, Nat.pow_zero, Nat.mul_one, Nat.shiftLeft_eq]
  rw [UnpackedFloat.ofScientific, dif_neg hne, if_neg (by decide), if_neg hlow,
    if_pos (Int.le_refl 0), UnpackedFloat.mul, ← hexact]
  rfl

theorem ofNat_isFinite_iff (n : Nat) : (Float.ofNat n).isFinite = true ↔ n < overflowBound := by
  by_cases hn : n < 2 ^ 53
  · have hbound : n < overflowBound :=
      calc n < 2 ^ 54 - 1 := by omega
        _ ≤ overflowBound := Nat.le_mul_of_pos_right _ halfStep_pos
    exact ⟨fun _ => hbound, fun _ => ofNat_isFinite_of_lt hn⟩
  · have hne : n ≠ 0 := by omega
    have hlog : 53 ≤ n.log2 := (Nat.le_log2 hne).2 (Nat.le_of_not_lt hn)
    have hshifted := log2_mul_two_pow hne 53
    obtain ⟨m, h, -, hround⟩ :=
      roundWithAccuracy_eq .positive (m := n * 2 ^ 53) (-53) (by omega) (by omega)
    have hcarry := carry_bounds (n * 2 ^ 53)
    have hedge := carry_eq_zero_iff (n := n)
    rw [Float.isFinite, toModel_ofNat hn, hround, pack_isFinite_iff, lt_overflowBound_iff hne]
    omega

theorem ofInt_isFinite_iff (n : Int) :
    (Float.ofInt n).isFinite = true ↔ n.natAbs < overflowBound := by
  cases n with
  | ofNat n => exact ofNat_isFinite_iff n
  | negSucc n =>
    rw [Float.ofInt, isFinite_neg, ofNat_isFinite_iff]
    rfl

end Scorecard.Decimal
