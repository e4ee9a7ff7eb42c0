import Scorecard.Decimal.Fixed
import Scorecard.Decimal.Numeral
import Scorecard.Proofs.Decimal.View

/-!
# The nearest double

A double is the nearest one to a number if no finite double is nearer and its mantissa is even
where another one is as near. Rounding a mantissa with its round bit and sticky bit gives the
nearest whole number in units of the last bit that is kept, and as the doubles in the same range
are whole numbers of these units, this is the nearest double.
-/

namespace Scorecard.Decimal

open Float.Model (UnpackedFloat Format totalExponent)
open Float.Model.UnpackedFloat

/-! ## The nearest whole number -/

/-- The whole number that a number is rounded to: the nearest one, and the even one of two that are
equally near. -/
structure RoundsTo (r : ℚ) (n : ℤ) : Prop where
  /-- It is at most a half away. -/
  near : |n - r| ≤ 1 / 2
  /-- A half goes to the even neighbour. -/
  even : |n - r| = 1 / 2 → Even n

namespace RoundsTo

variable {r : ℚ} {n k : ℤ}

/-- Two whole numbers are not both less than a half away. -/
theorem one_le_dist (hk : k ≠ n) : (1 : ℚ) ≤ |(k : ℚ) - r| + |(n : ℚ) - r| := by
  have hdist : (1 : ℚ) ≤ |(k : ℚ) - n| := by
    exact_mod_cast Int.one_le_abs (sub_ne_zero.2 hk)
  calc (1 : ℚ) ≤ |(k : ℚ) - n| := hdist
    _ = |((k : ℚ) - r) - (n - r)| := by rw [sub_sub_sub_cancel_right]
    _ ≤ |(k : ℚ) - r| + |(n : ℚ) - r| := abs_sub _ _

/-- No whole number is nearer. -/
theorem closest (h : RoundsTo r n) (k : ℤ) : |(n : ℚ) - r| ≤ |(k : ℚ) - r| := by
  by_cases hk : k = n
  · rw [hk]
  · have hdist := one_le_dist (r := r) hk
    have hnear := h.near
    linarith

/-- If another one is as near, it is even. -/
theorem even_of_tie (h : RoundsTo r n) (hk : k ≠ n) (htie : |(k : ℚ) - r| = |(n : ℚ) - r|) :
    Even n := by
  have hdist := one_le_dist (r := r) hk
  have hnear := h.near
  exact h.even (by linarith)

theorem unique (h : RoundsTo r n) (h' : RoundsTo r k) : k = n := by
  by_contra hk
  have htie : |(k : ℚ) - r| = |(n : ℚ) - r| := le_antisymm (h'.closest n) (h.closest k)
  obtain ⟨a, ha⟩ := h.even_of_tie hk htie
  obtain ⟨b, hb⟩ := h'.even_of_tie (Ne.symm hk) htie.symm
  have hdist : |k - n| ≤ 1 := by
    have hsum : |(k : ℚ) - n| ≤ |(k : ℚ) - r| + |(n : ℚ) - r| := by
      have hsub := abs_sub ((k : ℚ) - r) (n - r)
      rwa [sub_sub_sub_cancel_right] at hsub
    have hle : |(k : ℚ) - n| ≤ 1 := by linarith [h.near, h'.near]
    exact_mod_cast hle
  have hbounds := abs_le.1 hdist
  omega

/-- Rounding does not pass a whole number. -/
theorem le_of_le (h : RoundsTo r n) (hr : r ≤ k) : n ≤ k := by
  have hnear := (abs_le.1 h.near).2
  have hlt : (n : ℚ) < k + 1 := by linarith
  exact Int.lt_add_one_iff.1 (by exact_mod_cast hlt)

theorem ge_of_ge (h : RoundsTo r n) (hr : k ≤ r) : k ≤ n := by
  have hnear := (abs_le.1 h.near).1
  have hlt : (k : ℚ) < n + 1 := by linarith
  exact Int.lt_add_one_iff.1 (by exact_mod_cast hlt)

/-- An even number is reached from half a unit below it on. -/
theorem ge_of_half_le (h : RoundsTo r n) (hk : Even k) (hr : k - 1 / 2 ≤ r) : k ≤ n := by
  by_contra hlt
  have hnear := (abs_le.1 h.near).1
  have hle : (n : ℚ) ≤ k - 1 := by exact_mod_cast (by omega : n ≤ k - 1)
  have hn : (n : ℚ) = k - 1 := by linarith
  have htie : |(n : ℚ) - r| = 1 / 2 := by
    rw [abs_of_nonpos (by linarith)]
    linarith
  have hbelow : n = k - 1 := by exact_mod_cast hn
  obtain ⟨a, ha⟩ := hk
  obtain ⟨b, hb⟩ := h.even htie
  omega

theorem neg (h : RoundsTo r n) : RoundsTo (-r) (-n) := by
  have hdist : |((-n : ℤ) : ℚ) - -r| = |(n : ℚ) - r| := by
    rw [Int.cast_neg, ← neg_sub', abs_neg]
  exact ⟨hdist.trans_le h.near, fun heq => (h.even (hdist.symm.trans heq)).neg⟩

/-- Below the middle the whole part is nearest. -/
theorem floor {q : Nat} (hlow : (q : ℚ) ≤ r) (hhigh : r < q + 1 / 2) : RoundsTo r (q : ℤ) := by
  have hdist : |((q : ℤ) : ℚ) - r| < 1 / 2 := by
    rw [Int.cast_natCast, abs_lt]
    constructor <;> linarith
  exact ⟨hdist.le, fun heq => absurd heq hdist.ne⟩

/-- Above the middle it is the next number. -/
theorem ceil {q : Nat} (hlow : (q : ℚ) + 1 / 2 < r) (hhigh : r < q + 1) :
    RoundsTo r ((q + 1 : Nat) : ℤ) := by
  have hdist : |(((q + 1 : Nat) : ℤ) : ℚ) - r| < 1 / 2 := by
    rw [Int.cast_natCast, Nat.cast_succ, abs_lt]
    constructor <;> linarith
  exact ⟨hdist.le, fun heq => absurd heq hdist.ne⟩

/-- In the middle it is the even one. -/
theorem middle {q : Nat} (h : r = q + 1 / 2) : RoundsTo r ((q + q % 2 : Nat) : ℤ) := by
  have heven : Even ((q + q % 2 : Nat) : ℤ) := by
    rw [Int.even_coe_nat, Nat.even_iff]
    omega
  refine ⟨?_, fun _ => heven⟩
  rw [Int.cast_natCast, Nat.cast_add, h]
  rcases Nat.mod_two_eq_zero_or_one q with hq | hq
  · rw [hq, Nat.cast_zero, add_zero, sub_add_cancel_left, abs_neg]
    norm_num
  · rw [hq, Nat.cast_one, add_sub_add_left_eq_sub]
    norm_num

end RoundsTo

/-- A quotient is its whole part and its remainder over the divisor. -/
theorem div_eq_add_mod (num : Nat) {den : Nat} (hden : 0 < den) :
    (num : ℚ) / den = (num / den : Nat) + (num % den : Nat) / den := by
  have hne : (den : ℚ) ≠ 0 := by exact_mod_cast hden.ne'
  have hnum : ((den * (num / den) + num % den : Nat) : ℚ) = num := by rw [Nat.div_add_mod]
  rw [eq_comm, ← hnum]
  push_cast
  field_simp

/-- Where a remainder is in its interval. -/
theorem mod_div_cases (num : Nat) {den : Nat} (hden : 0 < den) :
    (2 * (num % den) < den ∧ ((num % den : Nat) : ℚ) / den < 1 / 2) ∨
      (2 * (num % den) = den ∧ ((num % den : Nat) : ℚ) / den = 1 / 2) ∨
      (den < 2 * (num % den) ∧ 1 / 2 < ((num % den : Nat) : ℚ) / den) := by
  have hpos : (0 : ℚ) < den := by exact_mod_cast hden
  rw [div_lt_div_iff₀ hpos two_pos, div_eq_div_iff hpos.ne' two_ne_zero,
    div_lt_div_iff₀ two_pos hpos, one_mul, mul_comm _ (2 : ℚ)]
  rcases Nat.lt_trichotomy (2 * (num % den)) den with h | h | h
  · exact .inl ⟨h, by exact_mod_cast h⟩
  · exact .inr (.inl ⟨h, by exact_mod_cast h⟩)
  · exact .inr (.inr ⟨h, by exact_mod_cast h⟩)

theorem mod_div_lt_one (num : Nat) {den : Nat} (hden : 0 < den) :
    ((num % den : Nat) : ℚ) / den < 1 := by
  rw [div_lt_one (by exact_mod_cast hden)]
  exact_mod_cast Nat.mod_lt num hden

/-- Rounding a quotient takes the nearest whole number. -/
theorem roundDiv_roundsTo (num : Nat) {den : Nat} (hden : 0 < den) :
    RoundsTo ((num : ℚ) / den) (roundDiv num den : ℤ) := by
  have hone := mod_div_lt_one num hden
  have hnonneg : (0 : ℚ) ≤ ((num % den : Nat) : ℚ) / den := by positivity
  rw [div_eq_add_mod num hden, roundDiv]
  rcases mod_div_cases num hden with ⟨h, hhalf⟩ | ⟨h, hhalf⟩ | ⟨h, hhalf⟩
  · rw [if_pos h]
    exact RoundsTo.floor (by linarith) (by linarith)
  · rw [if_neg h.not_lt, if_neg h.not_gt]
    exact RoundsTo.middle (by rw [hhalf])
  · rw [if_neg h.not_gt, if_pos h]
    exact RoundsTo.ceil (by linarith) (by linarith)

/-! ## Mantissas with a round bit and a sticky bit -/

/-- A mantissa with its two bits tells where a number is in the unit interval above it. -/
structure Describes (em : ExtendedMantissa) (v : ℚ) : Prop where
  /-- The mantissa is the whole part. -/
  low : em.mantissa ≤ v
  /-- The mantissa is the whole part. -/
  high : v < em.mantissa + 1
  /-- The round bit is set from the middle on. -/
  round : em.roundBit = true ↔ em.mantissa + 1 / 2 ≤ v
  /-- The sticky bit is set off the ends and the middle. -/
  sticky : em.stickyBit = true ↔ v ≠ em.mantissa ∧ v ≠ em.mantissa + 1 / 2

namespace Describes

variable {em : ExtendedMantissa} {v : ℚ}

/-- A mantissa is rounded to the nearest whole number. -/
theorem roundsTo (h : Describes em v) : RoundsTo v (em.roundedMantissa : ℤ) := by
  obtain ⟨m, r, s⟩ := em
  obtain ⟨hlow, hhigh, hround, hsticky⟩ := h
  dsimp only at hlow hhigh hround hsticky
  cases r with
  | false =>
    have hhalf : v < m + 1 / 2 := not_le.1 (mt hround.2 Bool.false_ne_true)
    cases s <;> exact RoundsTo.floor hlow hhalf
  | true =>
    have hhalf := hround.1 rfl
    cases s with
    | false =>
      have hmiddle : v = m + 1 / 2 := by
        by_contra hne
        exact Bool.false_ne_true (hsticky.2 ⟨by linarith, hne⟩)
      exact RoundsTo.middle hmiddle
    | true => exact RoundsTo.ceil (lt_of_le_of_ne hhalf (Ne.symm (hsticky.1 rfl).2)) hhigh

/-- One of the two bits is set off the lower end. -/
theorem or_bits (h : Describes em v) :
    (em.roundBit || em.stickyBit) = true ↔ v ≠ em.mantissa := by
  rw [Bool.or_eq_true, h.round, h.sticky]
  constructor
  · rintro (hhalf | ⟨hne, -⟩)
    · intro heq
      linarith
    · exact hne
  · intro hne
    by_cases hmiddle : v = em.mantissa + 1 / 2
    · exact .inl hmiddle.ge
    · exact .inr ⟨hne, hmiddle⟩

/-- Taking the last bit off halves the number. -/
theorem shiftRightOne (h : Describes em v) : Describes em.shiftRightOne (v / 2) := by
  have hrest := h.or_bits
  obtain ⟨m, r, s⟩ := em
  have hlow := h.low
  have hhigh := h.high
  dsimp only at hlow hhigh hrest
  have hsplit : (m : ℚ) = 2 * (m / 2 : Nat) + (m % 2 : Nat) := by
    exact_mod_cast (Nat.div_add_mod m 2).symm
  have hbit := Nat.mod_two_eq_zero_or_one m
  rw [hsplit] at hlow hhigh hrest
  constructor
  · change ((m / 2 : Nat) : ℚ) ≤ v / 2
    have hnonneg : (0 : ℚ) ≤ (m % 2 : Nat) := Nat.cast_nonneg _
    linarith
  · change v / 2 < ((m / 2 : Nat) : ℚ) + 1
    have hone : ((m % 2 : Nat) : ℚ) ≤ 1 := by
      exact_mod_cast Nat.le_of_lt_succ (Nat.mod_lt m two_pos)
    linarith
  · change (m % 2 != 0) = true ↔ ((m / 2 : Nat) : ℚ) + 1 / 2 ≤ v / 2
    rw [bne_iff_ne]
    rcases hbit with hm | hm <;> rw [hm] at hlow hhigh ⊢ <;> push_cast at hlow hhigh
    · exact iff_of_false (by decide) (by linarith)
    · exact iff_of_true (by decide) (by linarith)
  · change (r || s) = true ↔ v / 2 ≠ (m / 2 : Nat) ∧ v / 2 ≠ (m / 2 : Nat) + 1 / 2
    rw [hrest]
    -- Of the two ends of the halves one is the mantissa, and the other one is out of reach.
    rcases hbit with hm | hm <;> rw [hm] at hlow hhigh ⊢ <;> push_cast at hlow hhigh ⊢
    · constructor
      · intro hne
        refine ⟨fun heq => hne ?_, fun heq => ?_⟩ <;> linarith
      · rintro ⟨hne, -⟩ heq
        exact hne (by linarith)
    · constructor
      · intro hne
        refine ⟨fun heq => ?_, fun heq => hne ?_⟩ <;> linarith
      · rintro ⟨-, hne⟩ heq
        exact hne (by linarith)

/-- Taking bits off divides the number by a power of two. -/
theorem shiftRight (h : Describes em v) (k : Nat) : Describes (em >>> k) (v / 2 ^ k) := by
  induction k with
  | zero =>
    rw [pow_zero, div_one]
    exact h
  | succ k ih =>
    have hstep : em >>> (k + 1) = (em >>> k).shiftRightOne := rfl
    rw [hstep, pow_succ, ← div_div]
    exact ih.shiftRightOne

theorem whole (m : Nat) : Describes ⟨m, false, false⟩ m where
  low := le_refl _
  high := lt_add_one _
  round := iff_of_false Bool.false_ne_true (by linarith)
  sticky := iff_of_false Bool.false_ne_true fun h => h.1 rfl

theorem below {m : Nat} (hlow : m < v) (hhigh : v < m + 1 / 2) : Describes ⟨m, false, true⟩ v where
  low := hlow.le
  high := by linarith
  round := iff_of_false Bool.false_ne_true hhigh.not_ge
  sticky := iff_of_true rfl ⟨hlow.ne', hhigh.ne⟩

theorem middle {m : Nat} (h : v = m + 1 / 2) : Describes ⟨m, true, false⟩ v where
  low := by linarith
  high := by linarith
  round := iff_of_true rfl h.ge
  sticky := iff_of_false Bool.false_ne_true fun hne => hne.2 h

theorem above {m : Nat} (hlow : m + 1 / 2 < v) (hhigh : v < m + 1) :
    Describes ⟨m, true, true⟩ v where
  low := by linarith
  high := hhigh
  round := iff_of_true rfl hlow.le
  sticky := iff_of_true rfl ⟨by linarith, hlow.ne'⟩

/-- A quotient is described by its whole part and by where its remainder is. -/
theorem quotient (num : Nat) {den : Nat} (hden : 0 < den) :
    Describes (.ofMantissaAndAccuracy (num / den) (accuracyOfFraction (num % den) den))
      ((num : ℚ) / den) := by
  have hone := mod_div_lt_one num hden
  rw [div_eq_add_mod num hden]
  by_cases hzero : num % den = 0
  · rw [accuracyOfFraction, if_pos hzero, hzero, Nat.cast_zero, zero_div, add_zero]
    exact whole _
  · have hrest : (0 : ℚ) < (num % den : Nat) / den :=
      div_pos (by exact_mod_cast Nat.pos_of_ne_zero hzero) (by exact_mod_cast hden)
    rw [accuracyOfFraction, if_neg hzero]
    rcases mod_div_cases num hden with ⟨h, hhalf⟩ | ⟨h, hhalf⟩ | ⟨h, hhalf⟩
    · rw [Nat.compare_eq_lt.2 h]
      exact below (by linarith) (by linarith)
    · rw [Nat.compare_eq_eq.2 h]
      exact middle (by rw [hhalf])
    · rw [Nat.compare_eq_gt.2 h]
      exact above (by linarith) (by linarith)

end Describes

/-! ## Rounding to a double -/

/-- The mantissa that the first rounding gives, in units of `2 ^ shiftedExponent m e`. -/
def roundedBits (m : Nat) (e : Int) (accuracy : Accuracy) : Nat :=
  (shifted m e accuracy).roundedMantissa

theorem shiftedExponent_low (m : Nat) (e : Int) : -1074 ≤ shiftedExponent m e := by
  unfold shiftedExponent
  omega

theorem le_shiftedExponent (m : Nat) (e : Int) : e ≤ shiftedExponent m e :=
  le_max_left _ _

theorem finite_congr {s : Sign} {m m' : Nat} {e e' : Int} {h : 0 < m} {h' : 0 < m'}
    (hm : m = m') (he : e = e') : UnpackedFloat.finite s m e h = .finite s m' e' h' := by
  subst hm he
  rfl

/-- What is kept of the rounded mantissa if it has one bit too many. -/
theorem roundWithAccuracy_eq_carried (s : Sign) (m : Nat) (e : Int) (accuracy : Accuracy) :
    roundWithAccuracy Format.binary64 s m e accuracy =
      if h : (shifted (roundedBits m e accuracy) (shiftedExponent m e) .exact).mantissa = 0 then
        .zero s
      else
        .finite s (shifted (roundedBits m e accuracy) (shiftedExponent m e) .exact).mantissa
          (shiftedExponent (roundedBits m e accuracy) (shiftedExponent m e))
          (Nat.pos_of_ne_zero h) := by
  simp only [roundWithAccuracy, shiftToTargetExponent_eq]
  rfl

/-- Rounding gives at most 53 bits; if it carries into one more, the last one is taken off. -/
theorem roundWithAccuracy_cases (s : Sign) (m : Nat) (e : Int) (accuracy : Accuracy) :
    (roundedBits m e accuracy = 0 ∧
      roundWithAccuracy Format.binary64 s m e accuracy = .zero s) ∨
    (∃ h, roundedBits m e accuracy < 2 ^ 53 ∧
      roundWithAccuracy Format.binary64 s m e accuracy =
        .finite s (roundedBits m e accuracy) (shiftedExponent m e) h) ∨
    (roundedBits m e accuracy = 2 ^ 53 ∧
      roundWithAccuracy Format.binary64 s m e accuracy =
        .finite s (2 ^ 52) (shiftedExponent m e + 1) (Nat.two_pow_pos 52)) := by
  have hle : roundedBits m e accuracy ≤ 2 ^ 53 := roundedMantissa_shifted_le m e accuracy
  have hlow := shiftedExponent_low m e
  rw [roundWithAccuracy_eq_carried]
  generalize shiftedExponent m e = f at *
  generalize roundedBits m e accuracy = n at *
  have hsecond := shiftedExponent_rounded hle hlow
  have hmantissa := mantissa_shifted n f .exact
  by_cases hlt : n < 2 ^ 53
  · rw [if_pos hlt] at hsecond
    have hexponent : shiftedExponent n f = f := le_antisymm hsecond (le_shiftedExponent n f)
    rw [hexponent, Int.sub_self, Int.toNat_zero, Nat.pow_zero, Nat.div_one] at hmantissa
    by_cases hzero : n = 0
    · exact .inl ⟨hzero, dif_pos (hmantissa.trans hzero)⟩
    · refine .inr (.inl ⟨Nat.pos_of_ne_zero hzero, hlt, ?_⟩)
      rw [dif_neg fun h => hzero (hmantissa.symm.trans h)]
      exact finite_congr hmantissa hexponent
  · have hfull : n = 2 ^ 53 := le_antisymm hle (Nat.le_of_not_lt hlt)
    rw [if_neg hlt] at hsecond
    have hexponent : shiftedExponent n f = f + 1 := by
      have hlog : n.log2 = 53 := by rw [hfull, Nat.log2_two_pow]
      unfold shiftedExponent at hsecond ⊢
      omega
    have hone : (f + 1 - f).toNat = 1 := by omega
    rw [hexponent, hone, hfull] at hmantissa
    rw [hfull] at hexponent ⊢
    refine .inr (.inr ⟨rfl, ?_⟩)
    rw [dif_neg (by rw [hmantissa]; decide)]
    exact finite_congr hmantissa hexponent

section Packed

variable {s : Sign} {m : Nat} {e : Int} {h : 0 < m}

/-- The fields of a packed double. -/
theorem pack_of_le (hlow : -1074 ≤ e) (hhigh : e ≤ 971) :
    UnpackedFloat.pack Format.binary64 (.finite s m e h) =
      if m.log2 = 52 then
        packComponents Format.binary64 s (BitVec.ofNat 11 (e + 1075).toNat) (BitVec.ofNat 52 m)
      else packComponents Format.binary64 s 0#11 (BitVec.ofNat 52 m) := by
  have hbiased : (e + (Format.binary64.exponentBias : Int) +
      (Format.binary64.mantissaBitsWithoutImplicit : Int)).toNat = (e + 1075).toNat := by
    change (e + 1023 + 52).toNat = _
    omega
  have hbits : m.log2 + 1 = Format.binary64.mantissaBits ↔ m.log2 = 52 := by
    change m.log2 + 1 = 53 ↔ _
    omega
  have hinfinite : ¬ 2 ^ Format.binary64.exponentBits ≤ (e + 1075).toNat + 1 := by
    change ¬ 2048 ≤ _
    omega
  simp only [UnpackedFloat.pack, hbiased, hbits, if_neg hinfinite]

theorem unpack_pack_normal (hlog : m.log2 = 52) (hlow : -1074 ≤ e) (hhigh : e ≤ 971) :
    (Float.Model.pack (.finite s m e h)).unpack = .finite s m e h := by
  have hbounds := (Nat.log2_eq_iff h.ne').1 hlog
  change unpack Format.binary64 (UnpackedFloat.pack Format.binary64 (.finite s m e h)) = _
  rw [pack_of_le hlow hhigh, if_pos hlog]
  unfold unpack
  dsimp only
  rw [unpackSign_packComponents, ofBitVec_toBitVec]
  simp only [unpackExponent_packComponents, unpackMantissa_packComponents]
  have hfield : (BitVec.ofNat 11 (e + 1075).toNat).toNat = (e + 1075).toNat := by
    rw [BitVec.toNat_ofNat]
    omega
  have hordinary : BitVec.ofNat 11 (e + 1075).toNat ≠ -1#11 := by
    intro heq
    rw [heq] at hfield
    change 2047 = _ at hfield
    omega
  have hnormal : BitVec.ofNat 11 (e + 1075).toNat ≠ 0#11 := by
    intro heq
    rw [heq] at hfield
    change 0 = _ at hfield
    omega
  rw [if_neg hordinary, if_neg hnormal]
  refine finite_congr ?_ ?_
  · change (1#1 ++ BitVec.ofNat 52 m).toNat = m
    rw [toNat_implicit, BitVec.toNat_ofNat]
    omega
  · change ((BitVec.ofNat 11 (e + 1075).toNat).toNat : Int) - (1023 + 52) = e
    omega

theorem unpack_pack_subnormal (hm : m < 2 ^ 52) :
    (Float.Model.pack (.finite s m (-1074) h)).unpack = .finite s m (-1074) h := by
  have hlog : ¬ m.log2 = 52 := ((Nat.log2_lt h.ne').2 hm).ne
  have hnat : (BitVec.ofNat 52 m).toNat = m := by
    rw [BitVec.toNat_ofNat]
    omega
  have hne : BitVec.ofNat 52 m ≠ 0#52 := by
    intro heq
    rw [heq] at hnat
    change 0 = m at hnat
    omega
  change unpack Format.binary64 (UnpackedFloat.pack Format.binary64 (.finite s m (-1074) h)) = _
  rw [pack_of_le le_rfl (by decide), if_neg hlog]
  unfold unpack
  dsimp only
  rw [unpackSign_packComponents, ofBitVec_toBitVec]
  simp only [unpackExponent_packComponents, unpackMantissa_packComponents]
  rw [if_neg (by decide), if_pos trivial, dif_neg hne]
  exact finite_congr hnat rfl

/-- A double of 53 bits, or of fewer at the lowest exponent, is packed without loss. -/
theorem unpack_pack_of_shape (hm : m < 2 ^ 53) (hlow : -1074 ≤ e)
    (hshape : m.log2 = 52 ∨ e = -1074) (hhigh : e ≤ 971) :
    (Float.Model.pack (.finite s m e h)).unpack = .finite s m e h := by
  by_cases hlog : m.log2 = 52
  · exact unpack_pack_normal hlog hlow hhigh
  · obtain rfl : e = -1074 := hshape.resolve_left hlog
    have hlt : m.log2 < 53 := (Nat.log2_lt h.ne').2 hm
    exact unpack_pack_subnormal ((Nat.log2_lt h.ne').1 (by omega))

end Packed

/-! ## The nearest double -/

/-- Whether a double goes with an even mantissa. -/
def HasEvenMantissa (x : Float) : Prop :=
  ∃ b, view x = .finite b ∧ Even b.mantissa

/-- The double that a number is rounded to. -/
structure Nearest (q : ℚ) (x : Float) : Prop where
  /-- It is finite. -/
  isFinite : x.isFinite = true
  /-- No finite double is nearer. -/
  closest : ∀ y : Float, y.isFinite = true → |exact x - q| ≤ |exact y - q|
  /-- If another number is as near, the mantissa is even. -/
  even : ∀ y : Float, y.isFinite = true → exact y ≠ exact x → |exact y - q| = |exact x - q| →
    HasEvenMantissa x

/-- Rounding does not depend on the sign. -/
theorem Nearest.neg {q : ℚ} {x : Float} (h : Nearest q x) : Nearest (-q) (-x) := by
  have hdist {y : Float} (hy : y.isFinite = true) : |exact (-y) - -q| = |exact y - q| := by
    rw [exact_neg hy, ← neg_sub', abs_neg]
  have hflip {y : Float} (hy : y.isFinite = true) : |exact y - -q| = |exact (-y) - q| := by
    rw [exact_neg hy, ← neg_add', abs_neg, sub_neg_eq_add]
  refine ⟨(isFinite_neg x).trans h.isFinite, fun y hy => ?_, fun y hy hne htie => ?_⟩
  · rw [hdist h.isFinite, hflip hy]
    exact h.closest (-y) ((isFinite_neg y).trans hy)
  · rw [hdist h.isFinite, hflip hy] at htie
    rw [exact_neg h.isFinite] at hne
    have hne' : exact (-y) ≠ exact x := by
      rw [exact_neg hy]
      exact fun heq => hne (by rw [← heq, neg_neg])
    obtain ⟨b, hb, heven⟩ := h.even (-y) ((isFinite_neg y).trans hy) hne' htie
    exact ⟨b.neg, view_neg hb, heven⟩

theorem hasEvenMantissa_iff {x : Float} {s : Sign} {m : Nat} {e : Int} {h : 0 < m}
    (hx : x.toModel.unpack = .finite s m e h) : HasEvenMantissa x ↔ Even m := by
  have hview : view x = .finite ⟨isMinus s, m, e⟩ := by
    rw [view_eq_viewUnpacked, hx]
    rfl
  unfold HasEvenMantissa
  rw [hview]
  constructor
  · rintro ⟨b, hb, heven⟩
    cases hb
    exact heven
  · exact fun heven => ⟨_, rfl, heven⟩

theorem hasEvenMantissa_of_zero {x : Float} {s : Sign} (hx : x.toModel.unpack = .zero s) :
    HasEvenMantissa x :=
  ⟨⟨isMinus s, 0, -1074⟩, by rw [view_eq_viewUnpacked, hx]; rfl, Even.zero⟩

theorem two_zpow_of_le {e f : Int} (h : e ≤ f) : (2 : ℚ) ^ f = 2 ^ (f - e).toNat * 2 ^ e := by
  rw [← zpow_natCast, ← zpow_add₀ two_ne_zero]
  congr 1
  omega

/-- The number of a finite double in units of a power of two: a whole number of them, which is even
if the mantissa is, or fewer than `2 ^ 52` of them. -/
theorem exact_eq_or_lt {y : Float} (hy : y.isFinite = true) {e : Int} (he : -1074 ≤ e) :
    (∃ k : ℤ, exact y = k * 2 ^ e ∧ (HasEvenMantissa y → Even k)) ∨
      -1074 < e ∧ |exact y| < 2 ^ 52 * 2 ^ e := by
  unfold exact
  rcases unpack_of_isFinite hy with ⟨s, huy⟩ | ⟨s, m, f, hm, huy⟩
  · refine .inl ⟨0, ?_, fun _ => Even.zero⟩
    rw [huy, exactUnpacked_zero, Int.cast_zero, zero_mul]
  · obtain ⟨hbits, hlow, -⟩ := shape_of_unpack huy
    rw [huy]
    by_cases hle : e ≤ f
    · refine .inl ⟨s.apply m * 2 ^ (f - e).toNat, ?_, fun heven => ?_⟩
      · rw [exactUnpacked, two_zpow_of_le hle, Int.cast_mul, Int.cast_pow, Int.cast_ofNat,
          mul_assoc]
      · have hm : Even (m : ℤ) := (Int.even_coe_nat m).2 ((hasEvenMantissa_iff huy).1 heven)
        refine Even.mul_right ?_ _
        cases s with
        | positive => exact hm
        | negative => exact hm.neg
    · refine .inr ⟨by omega, ?_⟩
      rw [abs_exactUnpacked_finite]
      calc (m : ℚ) * 2 ^ f < 2 ^ 53 * 2 ^ f :=
            mul_lt_mul_of_pos_right (by exact_mod_cast hbits) (zpow_pos two_pos f)
        _ = 2 ^ 52 * 2 ^ (f + 1) := by
          rw [zpow_add_one₀ two_ne_zero]
          ring
        _ ≤ 2 ^ 52 * 2 ^ e :=
          mul_le_mul_of_nonneg_left (zpow_le_zpow_right₀ one_le_two (by omega)) (by norm_num)

/-- A number is rounded to `n` units of `2 ^ e`. The unit is the smallest one, or the number has at
least 53 bits of it. -/
structure RoundsToUnits (q : ℚ) (n : Nat) (e : Int) : Prop where
  /-- The unit is not below the smallest one. -/
  low : -1074 ≤ e
  /-- The unit is the smallest one, or the number has 53 bits of it. -/
  bits : e = -1074 ∨ 2 ^ 52 * 2 ^ e ≤ q
  /-- The number rounds to `n` units, a tie to an even number of them. -/
  rounds : RoundsTo (q / 2 ^ e) (n : ℤ)

/-- A finite double of `n` units of `2 ^ e`, with an even mantissa if `n` is even. -/
structure OfUnits (x : Float) (n : Nat) (e : Int) : Prop where
  /-- The double is finite. -/
  isFinite : x.isFinite = true
  /-- The double is `n` units. -/
  exact : exact x = n * 2 ^ e
  /-- An even number of units is an even mantissa. -/
  even : Even n → HasEvenMantissa x

namespace RoundsToUnits

variable {q : ℚ} {x : Float} {n : Nat} {e : Int}

/-- A distance in units. -/
theorem dist_units (q : ℚ) (k : ℤ) (e : Int) :
    |(k : ℚ) * 2 ^ e - q| = |(k : ℚ) - q / 2 ^ e| * 2 ^ e := by
  have hpos : (0 : ℚ) < 2 ^ e := zpow_pos two_pos e
  rw [← abs_of_pos hpos, ← abs_mul, abs_of_pos hpos, sub_mul, div_mul_cancel₀ q hpos.ne']

theorem dist_le_iff (q : ℚ) (k l : ℤ) (e : Int) :
    |(k : ℚ) * 2 ^ e - q| ≤ |(l : ℚ) * 2 ^ e - q| ↔
      |(k : ℚ) - q / 2 ^ e| ≤ |(l : ℚ) - q / 2 ^ e| := by
  rw [dist_units, dist_units, mul_le_mul_iff_of_pos_right (zpow_pos two_pos e)]

/-- Other doubles are farther away or are whole numbers of units, too. -/
theorem multiple_or_lt (h : RoundsToUnits q n e) (hx : OfUnits x n e) {y : Float}
    (hy : y.isFinite = true) :
    (∃ k : ℤ, Decimal.exact y = k * 2 ^ e ∧ (HasEvenMantissa y → Even k)) ∨
      |Decimal.exact x - q| < |Decimal.exact y - q| := by
  rcases exact_eq_or_lt hy h.low with hwhole | ⟨hnormal, hlt⟩
  · exact .inl hwhole
  · -- Below 53 bits all doubles are farther away than the power of two there is.
    have hpower := h.bits.resolve_left hnormal.ne'
    have hnear := (dist_le_iff q n (2 ^ 52) e).2 (h.rounds.closest (2 ^ 52))
    rw [Int.cast_natCast, ← hx.exact] at hnear
    refine .inr (hnear.trans_lt ?_)
    push_cast
    rw [abs_sub_comm, abs_of_nonneg (by linarith), abs_sub_comm]
    have hbelow := (abs_lt.1 hlt).2
    exact lt_of_lt_of_le (by linarith) (le_abs_self _)

/-- The double of these units is the nearest one. -/
theorem nearest (h : RoundsToUnits q n e) (hx : OfUnits x n e) : Nearest q x := by
  have hexact : Decimal.exact x = (n : ℤ) * 2 ^ e := by
    rw [hx.exact, Int.cast_natCast]
  refine ⟨hx.isFinite, fun y hy => ?_, fun y hy hne htie => ?_⟩
  · rcases h.multiple_or_lt hx hy with ⟨k, hk, -⟩ | hlt
    · rw [hexact, hk, dist_le_iff]
      exact h.rounds.closest k
    · exact hlt.le
  · rcases h.multiple_or_lt hx hy with ⟨k, hk, -⟩ | hlt
    · have hk' : k ≠ n := by
        rintro rfl
        exact hne (hk.trans hexact.symm)
      rw [hexact, hk, dist_units, dist_units] at htie
      have hparity := h.rounds.even_of_tie hk' (mul_right_cancel₀ (zpow_pos two_pos e).ne' htie)
      exact hx.even (by exact_mod_cast hparity)
    · exact absurd htie hlt.ne'

/-- Whatever is nearest is rounded to the same units. -/
theorem exact_eq_of_nearest (h : RoundsToUnits q n e) (hx : OfUnits x n e) {y : Float}
    (hy : Nearest q y) : Decimal.exact y = Decimal.exact x := by
  have hexact : Decimal.exact x = (n : ℤ) * 2 ^ e := by
    rw [hx.exact, Int.cast_natCast]
  have hclosest := hy.closest x hx.isFinite
  obtain ⟨k, hk, heven⟩ := (h.multiple_or_lt hx hy.isFinite).resolve_right hclosest.not_gt
  have hrounds : RoundsTo (q / 2 ^ e) k := by
    rw [hk, hexact, dist_le_iff] at hclosest
    refine ⟨hclosest.trans h.rounds.near, fun hhalf => ?_⟩
    by_cases hkn : k = n
    · rw [hkn] at hhalf ⊢
      exact h.rounds.even hhalf
    · refine heven (hy.even x hx.isFinite ?_ ?_)
      · rw [hk, hexact]
        intro heq
        have hcast := mul_right_cancel₀ (zpow_pos two_pos e).ne' heq
        exact hkn (by exact_mod_cast hcast.symm)
      · refine le_antisymm ((h.nearest hx).closest y hy.isFinite) (hy.closest x hx.isFinite)
  rw [hk, hexact, h.rounds.unique hrounds]

/-- Units of a number in range are not above those of the largest double, and there are fewer than
`2 ^ 53` of those. -/
theorem lt_of_lt_overflowBound (h : RoundsToUnits q n e) (hbound : q < overflowBound) :
    e ≤ 971 ∧ (e = 971 → n < 2 ^ 53) := by
  constructor
  · by_contra hgt
    have hpower := h.bits.resolve_left (by omega)
    have hlarge : (2 : ℚ) ^ 53 * 2 ^ (971 : ℤ) ≤ 2 ^ 52 * 2 ^ e := by
      rw [← zpow_natCast, ← zpow_natCast, ← zpow_add₀ two_ne_zero, ← zpow_add₀ two_ne_zero]
      exact zpow_le_zpow_right₀ one_le_two (by push_cast; omega)
    have hunit : (0 : ℚ) < 2 ^ (971 : ℤ) := zpow_pos two_pos _
    rw [overflowBound_eq_units] at hbound
    generalize (2 : ℚ) ^ (971 : ℤ) = unit at *
    linarith
  · rintro rfl
    have hlt : q / 2 ^ (971 : ℤ) < 2 ^ 53 - 1 / 2 := by
      rw [div_lt_iff₀ (zpow_pos two_pos _), ← overflowBound_eq_units]
      exact hbound
    have hnear := (abs_le.1 h.rounds.near).2
    rw [Int.cast_natCast] at hnear
    have hcast : (n : ℚ) < (2 ^ 53 : Nat) := by
      push_cast
      linarith
    exact_mod_cast hcast

/-- Units of a number out of range are above those of the largest double, or there are `2 ^ 53` of
those. -/
theorem of_overflowBound_le (h : RoundsToUnits q n e) (hn : n ≤ 2 ^ 53)
    (hbound : overflowBound ≤ q) :
    971 < e ∨ e = 971 ∧ n = 2 ^ 53 := by
  have hunit : (0 : ℚ) < 2 ^ e := zpow_pos two_pos e
  rcases Int.lt_trichotomy e 971 with hlt | rfl | hgt
  · -- With smaller units the number would be in range.
    have hcast : ((n : ℤ) : ℚ) ≤ 2 ^ 53 := by exact_mod_cast hn
    have hnear := (abs_le.1 h.rounds.near).1
    have hsmall : q < overflowBound := by
      calc q ≤ (2 ^ 53 + 1 / 2) * 2 ^ e := by
            rw [← div_le_iff₀ hunit]
            linarith
        _ ≤ (2 ^ 53 + 1 / 2) * 2 ^ (970 : ℤ) :=
            mul_le_mul_of_nonneg_left (zpow_le_zpow_right₀ one_le_two (by omega)) (by norm_num)
        _ < overflowBound := by
            rw [overflowBound_eq]
            exact mul_lt_mul_of_pos_right (by norm_num) (zpow_pos two_pos _)
    exact absurd hbound hsmall.not_ge
  · have hge : ((2 ^ 53 : ℤ) : ℚ) - 1 / 2 ≤ q / 2 ^ (971 : ℤ) := by
      rw [le_div_iff₀ hunit, Int.cast_pow, Int.cast_ofNat, ← overflowBound_eq_units]
      exact hbound
    have hfull := h.rounds.ge_of_half_le (by decide) hge
    exact .inr ⟨rfl, by omega⟩
  · exact .inl hgt

/-- With a unit above the smallest one there are 53 bits of it. -/
theorem normal (h : RoundsToUnits q n e) : e = -1074 ∨ 2 ^ 52 ≤ n := by
  refine h.bits.imp_right fun hle => ?_
  have hge : (((2 ^ 52 : Nat) : ℤ) : ℚ) ≤ q / 2 ^ e := by
    rw [le_div_iff₀ (zpow_pos two_pos e)]
    push_cast
    exact hle
  exact_mod_cast h.rounds.ge_of_ge hge

/-- Rounding a mantissa takes units of the last bit that is kept. -/
theorem of_describes {v : ℚ} {m : Nat} {e : Int} {accuracy : Accuracy}
    (hv : Describes (.ofMantissaAndAccuracy m accuracy) v) (hshape : 52 ≤ m.log2 ∨ e ≤ -1074) :
    RoundsToUnits (v * 2 ^ e) (roundedBits m e accuracy) (shiftedExponent m e) where
  low := shiftedExponent_low m e
  bits := by
    refine or_iff_not_imp_left.2 fun hne => ?_
    have hlog : 52 ≤ m.log2 := by
      unfold shiftedExponent at hne
      omega
    have hm : m ≠ 0 := by
      rintro rfl
      cases hlog
    have hexponent : shiftedExponent m e = m.log2 + e - 52 := by
      unfold shiftedExponent at hne ⊢
      omega
    calc (2 : ℚ) ^ 52 * 2 ^ shiftedExponent m e = 2 ^ ((m.log2 : ℤ) + e) := by
          rw [hexponent, ← zpow_natCast, ← zpow_add₀ two_ne_zero]
          congr 1
          omega
      _ ≤ m * 2 ^ e := (mul_two_zpow_bounds hm e).1
      _ ≤ v * 2 ^ e := by
        refine mul_le_mul_of_nonneg_right ?_ (zpow_pos two_pos e).le
        have hwhole := hv.low
        rwa [mantissa_ofMantissaAndAccuracy] at hwhole
  rounds := by
    rw [two_zpow_of_le (le_shiftedExponent m e), mul_div_mul_right _ _ (zpow_pos two_pos e).ne']
    exact (hv.shiftRight _).roundsTo

end RoundsToUnits

theorem exact_of_unpack {x : Float} {m : Nat} {e : Int} {h : 0 < m}
    (hx : x.toModel.unpack = .finite .positive m e h) : exact x = m * 2 ^ e := by
  rw [exact, hx, exactUnpacked_positive]

theorem isFinite_of_unpack {x : Float} {s : Sign} {m : Nat} {e : Int} {h : 0 < m}
    (hx : x.toModel.unpack = .finite s m e h) : x.isFinite = true := by
  unfold Float.isFinite Float.Model.isFinite
  rw [hx]
  rfl

/-- The double that a mantissa is rounded to has the units that it is rounded to, in range. -/
theorem ofUnits_roundWithAccuracy {x : Float} {q : ℚ} {m : Nat} {e : Int} {accuracy : Accuracy}
    (hx : x.toModel = .pack (roundWithAccuracy Format.binary64 .positive m e accuracy))
    (h : RoundsToUnits q (roundedBits m e accuracy) (shiftedExponent m e))
    (hbound : q < overflowBound) :
    OfUnits x (roundedBits m e accuracy) (shiftedExponent m e) := by
  obtain ⟨hhigh, hcarry⟩ := h.lt_of_lt_overflowBound hbound
  have hlow := h.low
  have hnormal := h.normal
  have hcases := roundWithAccuracy_cases .positive m e accuracy
  generalize shiftedExponent m e = f at *
  generalize roundedBits m e accuracy = n at *
  rcases hcases with ⟨hzero, hround⟩ | ⟨hn, hlt, hround⟩ | ⟨hfull, hround⟩
  · have hunpack : x.toModel.unpack = .zero .positive := by
      rw [hx, hround]
      rfl
    refine ⟨?_, ?_, fun _ => hasEvenMantissa_of_zero hunpack⟩
    · rw [Float.isFinite, hx, hround]
      exact pack_zero_isFinite _
    · rw [exact, hunpack, exactUnpacked_zero, hzero, Nat.cast_zero, zero_mul]
  · have hlog : n.log2 = 52 ∨ f = -1074 :=
      hnormal.symm.imp_left fun hge => (Nat.log2_eq_iff hn.ne').2 ⟨hge, hlt⟩
    have hunpack : x.toModel.unpack = .finite .positive n f hn := by
      rw [hx, hround, unpack_pack_of_shape hlt hlow hlog hhigh]
    exact ⟨isFinite_of_unpack hunpack, exact_of_unpack hunpack, (hasEvenMantissa_iff hunpack).2⟩
  · have hle : f + 1 ≤ 971 := by
      by_contra hgt
      have := hcarry (by omega)
      omega
    have hunpack : x.toModel.unpack = .finite .positive (2 ^ 52) (f + 1) (Nat.two_pow_pos 52) := by
      rw [hx, hround, unpack_pack_of_shape (by decide) (by omega) (.inl (Nat.log2_two_pow)) hle]
    refine ⟨isFinite_of_unpack hunpack, ?_, fun _ => (hasEvenMantissa_iff hunpack).2 (by decide)⟩
    rw [exact_of_unpack hunpack, hfull, zpow_add_one₀ two_ne_zero]
    push_cast
    ring

/-- Rounding a number out of range gives an infinity. -/
theorem pack_roundWithAccuracy_of_le {q : ℚ} {m : Nat} {e : Int} {accuracy : Accuracy} (s : Sign)
    (h : RoundsToUnits q (roundedBits m e accuracy) (shiftedExponent m e))
    (hbound : overflowBound ≤ q) :
    Float.Model.pack (roundWithAccuracy Format.binary64 s m e accuracy) = .pack (.infinity s) := by
  have hedge := h.of_overflowBound_le (roundedMantissa_shifted_le m e accuracy) hbound
  have hnormal := h.normal
  rcases roundWithAccuracy_cases s m e accuracy with ⟨hzero, hround⟩ | ⟨hn, hlt, hround⟩ |
    ⟨hfull, hround⟩
  · omega
  · rw [hround, pack_of_exponent (by omega)]
  · rw [hround, pack_of_exponent (by omega)]

/-- The double of a number that is not negative. -/
structure IsDoubleOf (q : ℚ) (x : Float) : Prop where
  /-- In range it is the nearest one. -/
  nearest : q < overflowBound → Nearest q x
  /-- Out of range it is infinity. -/
  infinite : overflowBound ≤ q → x = infinity

/-- Rounding a mantissa gives the double of the number, if the mantissa has 53 bits or its exponent
is not above the lowest one. -/
theorem isDoubleOf_roundWithAccuracy {x : Float} {v : ℚ} {m : Nat} {e : Int} {accuracy : Accuracy}
    (hx : x.toModel = .pack (roundWithAccuracy Format.binary64 .positive m e accuracy))
    (hv : Describes (.ofMantissaAndAccuracy m accuracy) v) (hshape : 52 ≤ m.log2 ∨ e ≤ -1074) :
    IsDoubleOf (v * 2 ^ e) x := by
  have hunits := RoundsToUnits.of_describes hv hshape
  refine ⟨fun hbound => hunits.nearest (ofUnits_roundWithAccuracy hx hunits hbound),
    fun hbound => ?_⟩
  have hmodel : x.toModel = infinity.toModel :=
    hx.trans (pack_roundWithAccuracy_of_le .positive hunits hbound)
  exact congrArg Float.ofModel hmodel

theorem exists_quotient {q : ℚ} (hq : 0 ≤ q) (k : Nat) :
    ∃ num den : Nat, 0 < den ∧ q = num / den * 2 ^ (-(k : ℤ)) := by
  refine ⟨q.num.toNat * 2 ^ k, q.den, q.den_pos, ?_⟩
  have hnum : ((q.num.toNat : Nat) : ℚ) = q.num := by
    exact_mod_cast Int.toNat_of_nonneg (Rat.num_nonneg.2 hq)
  have hpower : (2 : ℚ) ^ k ≠ 0 := pow_ne_zero k two_ne_zero
  calc q = q.num / q.den := (Rat.num_div_den q).symm
    _ = q.num * 2 ^ k / q.den * 2 ^ (-(k : ℤ)) := by
      rw [zpow_neg, zpow_natCast, mul_div_right_comm, mul_inv_cancel_right₀ hpower]
    _ = (q.num.toNat * 2 ^ k : Nat) / q.den * 2 ^ (-(k : ℤ)) := by
      rw [Nat.cast_mul, Nat.cast_pow, Nat.cast_ofNat, hnum]

/-- Every number in range is rounded to units of some double. -/
theorem exists_units {q : ℚ} (hq : 0 ≤ q) (hbound : q < overflowBound) :
    ∃ x n e, RoundsToUnits q n e ∧ OfUnits x n e := by
  obtain ⟨num, den, hden, hquotient⟩ := exists_quotient hq 1074
  have hunits : RoundsToUnits q _ _ :=
    hquotient ▸ RoundsToUnits.of_describes (Describes.quotient num hden) (.inr le_rfl)
  exact ⟨.ofModel (.pack (roundWithAccuracy Format.binary64 .positive (num / den) (-1074)
    (accuracyOfFraction (num % den) den))), _, _, hunits,
    ofUnits_roundWithAccuracy rfl hunits hbound⟩

/-- All the doubles that a number in range is rounded to stand for the same number. -/
theorem Nearest.unique {q : ℚ} {x y : Float} (hx : Nearest q x) (hy : Nearest q y)
    (hbound : |q| < overflowBound) : exact x = exact y := by
  rcases le_total 0 q with hq | hq
  · rw [abs_of_nonneg hq] at hbound
    obtain ⟨z, n, e, hunits, hz⟩ := exists_units hq hbound
    rw [hunits.exact_eq_of_nearest hz hx, hunits.exact_eq_of_nearest hz hy]
  · rw [abs_of_nonpos hq] at hbound
    obtain ⟨z, n, e, hunits, hz⟩ := exists_units (neg_nonneg.2 hq) hbound
    have hneg : exact (-x) = exact (-y) := by
      rw [hunits.exact_eq_of_nearest hz hx.neg, hunits.exact_eq_of_nearest hz hy.neg]
    rwa [exact_neg hx.isFinite, exact_neg hy.isFinite, neg_inj] at hneg

end Scorecard.Decimal
