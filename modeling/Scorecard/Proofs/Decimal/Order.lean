import Scorecard.Proofs.Decimal.Arithmetic

/-!
# The order of doubles

Finite doubles compare as the numbers that they stand for. So their comparison is total and
transitive, a strict comparison is the negation of a weak one the other way round, and negation
reverses it.
-/

namespace Scorecard.Decimal

open Float.Model (UnpackedFloat Format)
open Float.Model.UnpackedFloat

/-! ## Comparing unpacked doubles -/

/-- Of two numbers with 53 bits, or fewer at the lowest exponent, the one with the larger exponent
is larger. -/
theorem magnitude_lt_of_exponent {m n : Nat} {e f : Int} (hm : m < 2 ^ 53) (he : -1074 ≤ e)
    (hn : n.log2 = 52 ∨ f = -1074) (hn' : 0 < n) (h : e < f) :
    (m : ℚ) * 2 ^ e < n * 2 ^ f := by
  have hlog : n.log2 = 52 := hn.resolve_right (by omega)
  have hlow : (2 : ℚ) ^ (52 + f) ≤ n * 2 ^ f := by
    have hbounds := (mul_two_zpow_bounds hn'.ne' f).1
    rwa [hlog] at hbounds
  have hhigh : (m : ℚ) * 2 ^ e < 2 ^ (53 + e) := by
    rw [zpow_add₀ two_ne_zero]
    refine mul_lt_mul_of_pos_right ?_ (zpow_pos two_pos e)
    exact_mod_cast hm
  calc (m : ℚ) * 2 ^ e < 2 ^ (53 + e) := hhigh
    _ ≤ 2 ^ (52 + f) := zpow_le_zpow_right₀ one_le_two (by omega)
    _ ≤ n * 2 ^ f := hlow

/-- Magnitudes compare by their exponents and then by their mantissas. -/
theorem compare_magnitude {m n : Nat} {e f : Int} (hm' : 0 < m) (hn' : 0 < n)
    (hm : m < 2 ^ 53 ∧ -1074 ≤ e ∧ (m.log2 = 52 ∨ e = -1074))
    (hn : n < 2 ^ 53 ∧ -1074 ≤ f ∧ (n.log2 = 52 ∨ f = -1074)) :
    (compare e f).then (compare m n) = compare ((m : ℚ) * 2 ^ e) (n * 2 ^ f) := by
  rcases Int.lt_trichotomy e f with hlt | rfl | hgt
  · have hless := magnitude_lt_of_exponent hm.1 hm.2.1 hn.2.2 hn' hlt
    rw [Int.compare_eq_lt.2 hlt, compare_lt_iff_lt.2 hless]
    rfl
  · have hpos : (0 : ℚ) < 2 ^ e := zpow_pos two_pos e
    rw [Int.compare_eq_eq.2 rfl, Ordering.eq_then]
    rcases Nat.lt_trichotomy m n with hlt | rfl | hgt
    · have hless : (m : ℚ) * 2 ^ e < n * 2 ^ e :=
        mul_lt_mul_of_pos_right (by exact_mod_cast hlt) hpos
      rw [compare_lt_iff_lt.2 hlt, compare_lt_iff_lt.2 hless]
    · rw [compare_eq_iff_eq.2 rfl, compare_eq_iff_eq.2 rfl]
    · have hless : (n : ℚ) * 2 ^ e < m * 2 ^ e :=
        mul_lt_mul_of_pos_right (by exact_mod_cast hgt) hpos
      rw [compare_gt_iff_gt.2 hgt, compare_gt_iff_gt.2 hless]
  · have hless := magnitude_lt_of_exponent hn.1 hn.2.1 hm.2.2 hm' hgt
    rw [Int.compare_eq_gt.2 hgt, compare_gt_iff_gt.2 hless]
    rfl

theorem compare_neg_neg (a b : ℚ) : compare (-a) (-b) = (compare a b).swap := by
  rcases lt_trichotomy a b with hlt | rfl | hgt
  · rw [compare_lt_iff_lt.2 hlt, compare_gt_iff_gt.2 (neg_lt_neg hlt)]
    rfl
  · rw [compare_eq_iff_eq.2 rfl, compare_eq_iff_eq.2 rfl]
    rfl
  · rw [compare_gt_iff_gt.2 hgt, compare_lt_iff_lt.2 (neg_lt_neg hgt)]
    rfl

theorem exactUnpacked_positive (m : Nat) (e : Int) (h : 0 < m) :
    exactUnpacked (.finite .positive m e h) = m * 2 ^ e :=
  rfl

theorem exactUnpacked_negative (m : Nat) (e : Int) (h : 0 < m) :
    exactUnpacked (.finite .negative m e h) = -(m * 2 ^ e) := by
  rw [exactUnpacked, Sign.apply]
  push_cast
  ring

/-- Finite doubles compare as the numbers that they stand for. -/
theorem compare_of_isFinite {x y : Float} (hx : x.isFinite = true) (hy : y.isFinite = true) :
    x.toModel.unpack.compare y.toModel.unpack = some (compare (exact x) (exact y)) := by
  have hpos (m : Nat) (e : Int) (h : 0 < m) : (0 : ℚ) < m * 2 ^ e :=
    mul_pos (by exact_mod_cast h) (zpow_pos two_pos e)
  unfold exact
  rcases unpack_of_isFinite hx with ⟨s, hux⟩ | ⟨s, m, e, hm, hux⟩
  · rcases unpack_of_isFinite hy with ⟨t, huy⟩ | ⟨t, n, f, hn, huy⟩
    · rw [hux, huy, exactUnpacked_zero, exactUnpacked_zero, compare_eq_iff_eq.2 rfl]
      rfl
    · rw [hux, huy, exactUnpacked_zero]
      cases t with
      | positive =>
        rw [exactUnpacked_positive, compare_lt_iff_lt.2 (hpos n f hn)]
        rfl
      | negative =>
        rw [exactUnpacked_negative, compare_gt_iff_gt.2 (neg_lt_zero.2 (hpos n f hn))]
        rfl
  · rcases unpack_of_isFinite hy with ⟨t, huy⟩ | ⟨t, n, f, hn, huy⟩
    · rw [hux, huy, exactUnpacked_zero]
      cases s with
      | positive =>
        rw [exactUnpacked_positive, compare_gt_iff_gt.2 (hpos m e hm)]
        rfl
      | negative =>
        rw [exactUnpacked_negative, compare_lt_iff_lt.2 (neg_lt_zero.2 (hpos m e hm))]
        rfl
    · have hmagnitude := compare_magnitude hm hn (shape_of_unpack hux) (shape_of_unpack huy)
      have hmpos := hpos m e hm
      have hnpos := hpos n f hn
      rw [hux, huy]
      cases s with
      | positive =>
        cases t with
        | positive => rw [exactUnpacked_positive, exactUnpacked_positive, ← hmagnitude]; rfl
        | negative =>
          have hless : -((n : ℚ) * 2 ^ f) < m * 2 ^ e := by linarith
          rw [exactUnpacked_positive, exactUnpacked_negative, compare_gt_iff_gt.2 hless]
          rfl
      | negative =>
        cases t with
        | positive =>
          have hless : -((m : ℚ) * 2 ^ e) < n * 2 ^ f := by linarith
          rw [exactUnpacked_positive, exactUnpacked_negative, compare_lt_iff_lt.2 hless]
          rfl
        | negative =>
          rw [exactUnpacked_negative, exactUnpacked_negative, compare_neg_neg, ← hmagnitude]
          rfl

/-! ## The order -/

section Order

variable {x y z : Float}

theorem lt_iff_exact (hx : x.isFinite = true) (hy : y.isFinite = true) :
    x < y ↔ exact x < exact y := by
  have hlt : x < y ↔ x.toModel.unpack.lt y.toModel.unpack = true :=
    ⟨fun h => of_decide_eq_true h, fun h => decide_eq_true h⟩
  rw [hlt, UnpackedFloat.lt, compare_of_isFinite hx hy, beq_iff_eq, Option.some.injEq,
    compare_lt_iff_lt]

theorem le_iff_exact (hx : x.isFinite = true) (hy : y.isFinite = true) :
    x ≤ y ↔ exact x ≤ exact y := by
  have hle : x ≤ y ↔ x.toModel.unpack.le y.toModel.unpack = true :=
    ⟨fun h => of_decide_eq_true h, fun h => decide_eq_true h⟩
  rw [hle, UnpackedFloat.le, compare_of_isFinite hx hy, Option.any_some, Ordering.isLE_iff_ne_gt,
    ← ne_eq, compare_le_iff_le]

theorem not_lt_iff_le (hx : x.isFinite = true) (hy : y.isFinite = true) : ¬ x < y ↔ y ≤ x := by
  rw [lt_iff_exact hx hy, le_iff_exact hy hx, not_lt]

theorem le_trans_of_isFinite (hx : x.isFinite = true) (hy : y.isFinite = true)
    (hz : z.isFinite = true) (hxy : x ≤ y) (hyz : y ≤ z) : x ≤ z := by
  rw [le_iff_exact hx hy] at hxy
  rw [le_iff_exact hy hz] at hyz
  rw [le_iff_exact hx hz]
  exact hxy.trans hyz

end Order

/-! ## Negation -/

section Components

variable {format : Format}

theorem unpackSign_packComponents (s : Sign) (exponent : BitVec format.exponentBits)
    (mantissa : BitVec format.mantissaBitsWithoutImplicit) :
    unpackSign (packComponents format s exponent mantissa) = s.toBitVec := by
  refine BitVec.eq_of_getLsbD_eq fun i hi => ?_
  obtain rfl : i = 0 := by omega
  simp [unpackSign, packComponents, BitVec.getLsbD_append, BitVec.getElem_append]

theorem ofBitVec_toBitVec (s : Sign) : Sign.ofBitVec s.toBitVec = s := by
  cases s <;> rfl

/-- The bit of the sign decides nothing but the sign. -/
theorem unpack_packComponents_neg (s : Sign) (exponent : BitVec format.exponentBits)
    (mantissa : BitVec format.mantissaBitsWithoutImplicit) :
    unpack format (packComponents format (-s) exponent mantissa) =
      (unpack format (packComponents format s exponent mantissa)).neg := by
  unfold unpack
  dsimp only
  rw [unpackSign_packComponents, unpackSign_packComponents, ofBitVec_toBitVec, ofBitVec_toBitVec]
  simp only [unpackExponent_packComponents, unpackMantissa_packComponents]
  split
  · split <;> rfl
  · split
    · split <;> rfl
    · rfl

/-- A finite double and its negation are packed with other signs and are otherwise the same. -/
theorem pack_neg {u : UnpackedFloat} (hu : u.isFinite = true) :
    ∃ s exponent mantissa,
      UnpackedFloat.pack format u = packComponents format s exponent mantissa ∧
      UnpackedFloat.pack format u.neg = packComponents format (-s) exponent mantissa := by
  cases u with
  | notANumber | infinity _ => cases hu
  | zero s => exact ⟨s, 0, 0, rfl, rfl⟩
  | finite s m e h =>
    simp only [UnpackedFloat.neg, UnpackedFloat.pack]
    split
    · exact ⟨s, -1#_, 0, rfl, rfl⟩
    · split
      · exact ⟨s, _, _, rfl, rfl⟩
      · exact ⟨s, _, _, rfl, rfl⟩

end Components

theorem unpack_neg {x : Float} (hx : x.isFinite = true) :
    (-x).toModel.unpack = x.toModel.unpack.neg := by
  have hmodel (u : UnpackedFloat) : (Float.Model.pack u).unpack =
      unpack Format.binary64 (UnpackedFloat.pack Format.binary64 u) := rfl
  have hneg : (-x).toModel = Float.Model.pack x.toModel.unpack.neg := rfl
  obtain ⟨s, exponent, mantissa, hpack, hpack'⟩ :=
    @pack_neg Format.binary64 x.toModel.unpack hx
  rw [hneg, hmodel, hpack', unpack_packComponents_neg, ← hpack, ← hmodel, pack_of_unpack]

theorem exact_neg {x : Float} (hx : x.isFinite = true) : exact (-x) = -exact x := by
  rw [exact, exact, unpack_neg hx]
  rcases unpack_of_isFinite hx with ⟨s, hux⟩ | ⟨s, m, e, h, hux⟩
  · rw [hux, UnpackedFloat.neg, exactUnpacked_zero, exactUnpacked_zero, neg_zero]
  · rw [hux, UnpackedFloat.neg]
    cases s with
    | positive =>
      change exactUnpacked (.finite .negative m e h) = _
      rw [exactUnpacked_negative, exactUnpacked_positive]
    | negative =>
      change exactUnpacked (.finite .positive m e h) = _
      rw [exactUnpacked_positive, exactUnpacked_negative, neg_neg]

/-- Negation reverses the order. -/
theorem neg_le_neg_iff_le {x y : Float} (hx : x.isFinite = true) (hy : y.isFinite = true) :
    -x ≤ -y ↔ y ≤ x := by
  have hx' : (-x).isFinite = true := (isFinite_neg x).trans hx
  have hy' : (-y).isFinite = true := (isFinite_neg y).trans hy
  rw [le_iff_exact hx' hy', le_iff_exact hy hx, exact_neg hx, exact_neg hy, neg_le_neg_iff]

end Scorecard.Decimal
