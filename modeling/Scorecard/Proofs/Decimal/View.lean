import Scorecard.Decimal.Binary
import Scorecard.Proofs.Decimal.Order

/-!
# The number that is seen

A double is taken apart by the arithmetic of its bits, and the number seen so is the one that it
stands for. A double whose mantissa is even is the one that a tie between neighbours goes to.
-/

namespace Scorecard.Decimal

open Float.Model (UnpackedFloat Format)
open Float.Model.UnpackedFloat

/-! ## Fields of bits -/

section Fields

variable (b : BitVec Format.binary64.numBits)

theorem toNat_unpackMantissa : (unpackMantissa b).toNat = b.toNat % 2 ^ 52 := by
  change (BitVec.extractLsb 51 0 b).toNat = _
  rw [BitVec.extractLsb_toNat, Nat.shiftRight_zero]

theorem toNat_unpackExponent : (unpackExponent b).toNat = b.toNat / 2 ^ 52 % 2 ^ 11 := by
  change (BitVec.extractLsb 62 52 b).toNat = _
  rw [BitVec.extractLsb_toNat, Nat.shiftRight_eq_div_pow]

theorem unpackSign_eq_zero_iff : unpackSign b = 0#1 ↔ b.toNat < 2 ^ 63 := by
  have hbits : b.toNat < 2 ^ 64 := b.isLt
  have hnat : (unpackSign b).toNat = b.toNat / 2 ^ 63 % 2 ^ 1 := by
    change (BitVec.extractLsb 63 63 b).toNat = _
    rw [BitVec.extractLsb_toNat, Nat.shiftRight_eq_div_pow]
  rw [← BitVec.toNat_inj, hnat]
  change b.toNat / 2 ^ 63 % 2 ^ 1 = 0 ↔ _
  omega

end Fields

/-! ## Views -/

/-- Whether a sign is the minus. -/
def isMinus : Sign → Bool
  | .positive => false
  | .negative => true

/-- What an unpacked double stands for. -/
def viewUnpacked : UnpackedFloat → View
  | .notANumber => .nan
  | .infinity s => .infinite (isMinus s)
  | .zero s => .finite ⟨isMinus s, 0, -1074⟩
  | .finite s m e _ => .finite ⟨isMinus s, m, e⟩

theorem isMinus_unpackSign (b : BitVec Format.binary64.numBits) :
    isMinus (Sign.ofBitVec (unpackSign b)) = decide (2 ^ 63 ≤ b.toNat) := by
  unfold Sign.ofBitVec
  split
  · rename_i h
    rw [decide_eq_false (Nat.not_le.2 ((unpackSign_eq_zero_iff b).1 h))]
    rfl
  · rename_i h
    rw [decide_eq_true (Nat.not_lt.1 (mt (unpackSign_eq_zero_iff b).2 h))]
    rfl

theorem toNat_implicit (v : BitVec 52) : (1#1 ++ v).toNat = 2 ^ 52 + v.toNat := by
  rw [BitVec.toNat_append, ← Nat.shiftLeft_add_eq_or_of_lt v.isLt]
  rfl

/-- What is seen of a double is what it is unpacked to. -/
theorem view_eq_viewUnpacked (x : Float) : view x = viewUnpacked x.toModel.unpack := by
  obtain ⟨b, hb⟩ : ∃ b : BitVec Format.binary64.numBits, b = x.toModel.toBits.toBitVec := ⟨_, rfl⟩
  have hbits : x.toBits.toNat = b.toNat := by
    rw [hb]
    rfl
  have hsign : decide (Nat.pow 2 63 ≤ b.toNat) = isMinus (Sign.ofBitVec (unpackSign b)) :=
    (isMinus_unpackSign b).symm
  have hexponent : b.toNat / Nat.pow 2 52 % Nat.pow 2 11 = (unpackExponent b).toNat :=
    (toNat_unpackExponent b).symm
  have hmantissa : b.toNat % Nat.pow 2 52 = (unpackMantissa b).toNat :=
    (toNat_unpackMantissa b).symm
  have hunpack : x.toModel.unpack = unpack Format.binary64 b := by
    rw [hb]
    rfl
  rw [hunpack, view, hbits, hsign, hexponent, hmantissa]
  unfold unpack
  dsimp only
  generalize Sign.ofBitVec (unpackSign b) = s
  have hall : unpackExponent b = -1#11 ↔ (unpackExponent b).toNat = 2047 := by
    rw [← BitVec.toNat_inj]
    rfl
  have hnone : unpackExponent b = 0#11 ↔ (unpackExponent b).toNat = 0 := by
    rw [← BitVec.toNat_inj]
    rfl
  have hzero : unpackMantissa b = 0#52 ↔ (unpackMantissa b).toNat = 0 := by
    rw [← BitVec.toNat_inj]
    rfl
  by_cases hspecial : unpackExponent b = -1#11
  · rw [if_pos (hall.1 hspecial), if_pos hspecial]
    by_cases hm : unpackMantissa b = 0#52
    · rw [if_pos (hzero.1 hm), if_pos hm]
      rfl
    · rw [if_neg (mt hzero.2 hm), if_neg hm]
      rfl
  · rw [if_neg (mt hall.2 hspecial), if_neg hspecial]
    by_cases hsmall : unpackExponent b = 0#11
    · rw [if_pos (hnone.1 hsmall), if_pos hsmall, hsmall]
      by_cases hm : unpackMantissa b = 0#52
      · rw [dif_pos hm, hm]
        rfl
      · rw [dif_neg hm]
        rfl
    · rw [if_neg (mt hnone.2 hsmall), if_neg hsmall]
      change View.finite _ = View.finite ⟨isMinus s, (1#1 ++ unpackMantissa b).toNat, _⟩
      rw [toNat_implicit]
      rfl

/-! ## The number seen -/

/-- The number of a signed integer times a power of two. -/
def Binary.value (b : Binary) : ℚ :=
  (if b.negative then -1 else 1) * (b.mantissa * 2 ^ b.exponent)

theorem Binary.abs_value (b : Binary) : |b.value| = b.mantissa * 2 ^ b.exponent := by
  have hnonneg : (0 : ℚ) ≤ b.mantissa * 2 ^ b.exponent := by positivity
  rw [value, abs_mul, abs_of_nonneg hnonneg]
  cases b.negative <;> simp

theorem exactUnpacked_of_view {u : UnpackedFloat} {b : Binary} (h : viewUnpacked u = .finite b) :
    exactUnpacked u = b.value := by
  cases u with
  | notANumber | infinity _ => cases h
  | zero s =>
    cases h
    rw [exactUnpacked_zero, Binary.value, Nat.cast_zero, zero_mul, mul_zero]
  | finite s m e hm =>
    cases h
    cases s with
    | positive =>
      rw [exactUnpacked_positive, Binary.value]
      exact (one_mul _).symm
    | negative =>
      rw [exactUnpacked_negative, Binary.value]
      exact (neg_one_mul _).symm

theorem exact_of_view {x : Float} {b : Binary} (h : view x = .finite b) : exact x = b.value :=
  exactUnpacked_of_view ((view_eq_viewUnpacked x).symm.trans h)

theorem exists_view {x : Float} (hx : x.isFinite = true) : ∃ b, view x = .finite b := by
  rw [view_eq_viewUnpacked]
  rcases unpack_of_isFinite hx with ⟨s, hux⟩ | ⟨s, m, e, h, hux⟩
  · rw [hux]
    exact ⟨_, rfl⟩
  · rw [hux]
    exact ⟨_, rfl⟩

theorem isFinite_of_view {x : Float} {b : Binary} (h : view x = .finite b) :
    x.isFinite = true := by
  rw [view_eq_viewUnpacked] at h
  unfold Float.isFinite Float.Model.isFinite
  cases hux : x.toModel.unpack with
  | notANumber | infinity _ =>
    rw [hux] at h
    cases h
  | zero _ | finite _ _ _ _ => rfl

/-- A number with the other sign. -/
def Binary.neg (b : Binary) : Binary :=
  { b with negative := !b.negative }

/-- The magnitude of a number. -/
def Binary.abs (b : Binary) : Binary :=
  { b with negative := false }

theorem viewUnpacked_neg {u : UnpackedFloat} {b : Binary} (h : viewUnpacked u = .finite b) :
    viewUnpacked u.neg = .finite b.neg := by
  cases u with
  | notANumber | infinity _ => cases h
  | zero s | finite s _ _ _ =>
    cases h
    cases s <;> rfl

theorem view_neg {x : Float} {b : Binary} (h : view x = .finite b) :
    view (-x) = .finite b.neg := by
  rw [view_eq_viewUnpacked, unpack_neg (isFinite_of_view h)]
  exact viewUnpacked_neg ((view_eq_viewUnpacked x).symm.trans h)

/-- A double without its sign is the double or its negation. -/
theorem view_abs {x : Float} {b : Binary} (h : view x = .finite b) :
    view x.abs = .finite b.abs := by
  have habs : x.abs.toModel = .pack x.toModel.unpack.abs := rfl
  have hneg : (-x).toModel = .pack x.toModel.unpack.neg := rfl
  have hview := (view_eq_viewUnpacked x).symm.trans h
  have hsign : b.negative = false ∧ x.toModel.unpack.abs = x.toModel.unpack ∨
      b.negative = true ∧ x.toModel.unpack.abs = x.toModel.unpack.neg := by
    cases hux : x.toModel.unpack with
    | notANumber | infinity _ =>
      rw [hux] at hview
      cases hview
    | zero s | finite s _ _ _ =>
      rw [hux] at hview
      cases hview
      cases s with
      | positive => exact .inl ⟨rfl, rfl⟩
      | negative => exact .inr ⟨rfl, rfl⟩
  rcases hsign with ⟨hb, hu⟩ | ⟨hb, hu⟩
  · have hsame : x.abs.toModel = x.toModel := by rw [habs, hu, pack_of_unpack]
    rw [view_eq_viewUnpacked, hsame, hview, Binary.abs, ← hb]
  · have hflip : view x.abs = view (-x) := by
      rw [view_eq_viewUnpacked, view_eq_viewUnpacked, habs, hu, hneg]
    rw [hflip, view_neg h, Binary.abs, Binary.neg, hb]
    rfl

theorem exact_abs {x : Float} (hx : x.isFinite = true) : exact x.abs = |exact x| := by
  obtain ⟨b, hb⟩ := exists_view hx
  rw [exact_of_view hb, exact_of_view (view_abs hb), b.abs_value]
  exact one_mul _

theorem exact_zero : exact 0.0 = 0 := by
  have hview : view 0.0 = .finite ⟨false, 0, -1074⟩ := by decide
  rw [exact_of_view hview, Binary.value, Nat.cast_zero, zero_mul, mul_zero]

theorem lt_zero_iff_exact {x : Float} (hx : x.isFinite = true) : x < 0.0 ↔ exact x < 0 := by
  have hzero : (0.0 : Float).isFinite = true := by decide
  rw [lt_iff_exact hx hzero, exact_zero]

end Scorecard.Decimal
