import Scorecard.Proofs.Decimal.Nearest
import Scorecard.Proofs.Decimal.Positional

/-!
# Fixed-point texts

The fixed-point text of a finite double denotes the decimal with that number of places that is
nearest to the double, the even one of two that are equally near. Digits and places stand in it as
in any positional text, and commas between groups of digits can be taken out again.
-/

namespace Scorecard.Decimal

/-! ## Decimals with a number of places -/

/-- The decimal with `places` places that a number is rounded to. -/
def RoundedTo (q : ℚ) (places : Nat) (r : ℚ) : Prop :=
  ∃ n : ℤ, r = n / 10 ^ places ∧ RoundsTo (q * 10 ^ places) n

theorem RoundedTo.unique {q r r' : ℚ} {places : Nat} (h : RoundedTo q places r)
    (h' : RoundedTo q places r') : r = r' := by
  obtain ⟨n, rfl, hn⟩ := h
  obtain ⟨n', rfl, hn'⟩ := h'
  rw [hn.unique hn']

theorem RoundedTo.neg {q r : ℚ} {places : Nat} (h : RoundedTo q places r) :
    RoundedTo (-q) places (-r) := by
  obtain ⟨n, rfl, hn⟩ := h
  refine ⟨-n, ?_, ?_⟩
  · rw [Int.cast_neg, neg_div]
  · rw [neg_mul]
    exact hn.neg

/-- Rounding does not leave the range between a whole number and its negation. -/
theorem RoundedTo.bounded {q r : ℚ} {places : Nat} (h : RoundedTo q places r) {bound : Nat}
    (hq : |q| ≤ bound) : |r| ≤ bound := by
  obtain ⟨n, rfl, hn⟩ := h
  obtain ⟨hlow, hhigh⟩ := abs_le.1 hq
  have hpos : (0 : ℚ) < 10 ^ places := by positivity
  have hle : n ≤ (bound * 10 ^ places : Nat) := by
    refine hn.le_of_le ?_
    push_cast
    exact mul_le_mul_of_nonneg_right hhigh hpos.le
  have hge : -((bound * 10 ^ places : Nat) : ℤ) ≤ n := by
    refine hn.ge_of_ge ?_
    push_cast
    rw [← neg_mul]
    exact mul_le_mul_of_nonneg_right hlow hpos.le
  have habs : |(n : ℚ)| ≤ bound * 10 ^ places := by
    rw [abs_le]
    constructor
    · exact_mod_cast hge
    · exact_mod_cast hle
  rw [abs_div, abs_of_pos hpos, div_le_iff₀ hpos]
  exact habs

theorem RoundedTo.nonneg {q r : ℚ} {places : Nat} (h : RoundedTo q places r) (hq : 0 ≤ q) :
    0 ≤ r := by
  obtain ⟨n, rfl, hn⟩ := h
  have hscaled : ((0 : ℤ) : ℚ) ≤ q * 10 ^ places := by
    rw [Int.cast_zero]
    positivity
  have hge : (0 : ℚ) ≤ n := by exact_mod_cast hn.ge_of_ge hscaled
  positivity

/-- A number from one on is not rounded to zero. -/
theorem RoundedTo.pos {q r : ℚ} {places : Nat} (h : RoundedTo q places r) (hq : 1 ≤ q) : 0 < r := by
  obtain ⟨n, rfl, hn⟩ := h
  have hscale : (1 : ℚ) ≤ 10 ^ places := one_le_pow₀ (by norm_num)
  have hone : 1 ≤ n := hn.ge_of_ge (by exact_mod_cast one_le_mul_of_one_le_of_one_le hq hscale)
  have hpos : (0 : ℚ) < n := by exact_mod_cast hone
  positivity

/-- The same holds on both sides of zero. -/
theorem not_roundedTo_zero {q : ℚ} {places : Nat} (hq : 1 ≤ |q|) : ¬ RoundedTo q places 0 := by
  intro h
  rcases le_abs.1 hq with hpositive | hnegative
  · exact lt_irrefl 0 (h.pos hpositive)
  · have hneg := h.neg
    rw [neg_zero] at hneg
    exact lt_irrefl 0 (hneg.pos hnegative)

theorem Binary.numerator_div_denominator (b : Binary) :
    (b.numerator : ℚ) / b.denominator = b.mantissa * 2 ^ b.exponent := by
  have hsplit : b.exponent = (b.exponent.toNat : Int) - ((-b.exponent).toNat : Int) := by omega
  have hnum : (b.numerator : ℚ) = b.mantissa * 2 ^ b.exponent.toNat := Nat.cast_mul _ _ |>.trans (by
    rw [Nat.pow_eq, Nat.cast_pow, Nat.cast_ofNat])
  have hden : (b.denominator : ℚ) = 2 ^ (-b.exponent).toNat := Nat.cast_pow _ _
  rw [hnum, hden]
  conv_rhs => rw [hsplit, zpow_sub₀ two_ne_zero, zpow_natCast, zpow_natCast, ← mul_div_assoc]

/-- The digits of the largest double before the point. -/
theorem largest_bounds : 10 ^ 308 ≤ largest ∧ largest < 10 ^ 309 := by
  decide +kernel

/-- The whole part of a finite double is at most the largest one. -/
theorem whole_le_largest {x : Float} {b : Binary} (h : view x = .finite b) :
    b.numerator / b.denominator ≤ largest := by
  have hmagnitude : |exact x| = (b.numerator : ℚ) / b.denominator := by
    rw [exact_of_view h, b.abs_value, b.numerator_div_denominator]
  have hle : ((b.numerator / b.denominator : Nat) : ℚ) ≤ largest :=
    Nat.cast_div_le.trans (hmagnitude.symm.le.trans (abs_exact_le x))
  exact_mod_cast hle

/-- A finite double that is written digit by digit with a number of places. -/
def Counted (x : Float) (places : Nat) : Prop :=
  ∃ b, view x = .finite b ∧ b.isCounted places = true

theorem Counted.isFinite {x : Float} {places : Nat} (h : Counted x places) : x.isFinite = true := by
  obtain ⟨b, hb, -⟩ := h
  exact isFinite_of_view hb

/-- The digits of any double can be counted if 309 of them and the places can. -/
theorem counted_of_isFinite {x : Float} (hx : x.isFinite = true) {places : Nat}
    (hplaces : 309 + places ≤ mostDigits) : Counted x places := by
  obtain ⟨b, hb⟩ := exists_view hx
  have hlength : b.wholeLength ≤ 309 := by
    rw [Binary.wholeLength]
    split
    · exact Nat.zero_le _
    · rw [← not_lt, lt_length_wholeDigits_iff (by decide), not_le]
      exact (whole_le_largest hb).trans_lt largest_bounds.2
  refine ⟨b, hb, ?_⟩
  rw [Binary.isCounted, Bool.or_eq_true]
  exact .inr (decide_eq_true (by omega))

/-- Only numbers from one on have digits that cannot be counted. -/
theorem one_le_of_not_counted {x : Float} (hx : x.isFinite = true) {places : Nat}
    (hplaces : places ≤ mostDigits) (h : ¬ Counted x places) : 1 ≤ |exact x| := by
  obtain ⟨b, hb⟩ := exists_view hx
  have hwhole : 1 ≤ b.numerator / b.denominator := by
    refine Nat.one_le_iff_ne_zero.2 fun hzero => h ⟨b, hb, ?_⟩
    rw [Binary.isCounted, Bool.or_eq_true, Binary.wholeLength, if_pos hzero]
    exact .inr (decide_eq_true (by omega))
  rw [exact_of_view hb, b.abs_value, ← b.numerator_div_denominator]
  calc (1 : ℚ) ≤ ((b.numerator / b.denominator : Nat) : ℚ) := by exact_mod_cast hwhole
    _ ≤ b.numerator / b.denominator := Nat.cast_div_le

namespace Fixed

/-- The number of a fixed-point decimal. -/
def value (d : Fixed) : ℚ :=
  (if d.negative then -1 else 1) * (d.units / 10 ^ d.places)

/-- The units that a double is rounded to. -/
theorem units_round (b : Binary) (places : Nat) :
    RoundsTo (b.mantissa * 2 ^ b.exponent * 10 ^ places) ((round b places).units : ℤ) := by
  have hquotient : (b.mantissa : ℚ) * 2 ^ b.exponent * 10 ^ places =
      ((b.numerator * Nat.pow 10 places : Nat) : ℚ) / b.denominator := by
    rw [← b.numerator_div_denominator, Nat.cast_mul, Nat.pow_eq, Nat.cast_pow]
    push_cast
    ring
  rw [hquotient]
  exact roundDiv_roundsTo _ b.denominator_pos

/-- The fixed-point decimal of a double is the nearest one with that number of places. -/
theorem value_round (b : Binary) (places : Nat) :
    RoundedTo b.value places (round b places).value := by
  have hmagnitude : RoundedTo (b.mantissa * 2 ^ b.exponent) places
      ((round b places).units / 10 ^ places) :=
    ⟨(round b places).units, by rw [Int.cast_natCast], units_round b places⟩
  rw [value, Binary.value]
  change RoundedTo _ _ ((if b.negative then -1 else 1) * ((round b places).units / 10 ^ places))
  cases b.negative with
  | false =>
    rw [if_neg Bool.false_ne_true, one_mul, one_mul]
    exact hmagnitude
  | true =>
    rw [if_pos rfl, neg_one_mul, neg_one_mul]
    exact hmagnitude.neg

end Fixed

/-- What is shown of a double: the decimal it is rounded to, or zero if its digits cannot be
counted. -/
structure Shows (x : Float) (places : Nat) (r : ℚ) : Prop where
  /-- The decimal that the double is rounded to. -/
  counted : Counted x places → RoundedTo (exact x) places r
  /-- Zero in the place of too many digits. -/
  uncounted : ¬ Counted x places → r = 0

theorem shows_shown {x : Float} {b : Binary} (h : view x = .finite b) (places : Nat) :
    Shows x places (Fixed.shown b places).value where
  counted := by
    rintro ⟨b', hb', hcounted⟩
    cases hb'.symm.trans h
    rw [Fixed.shown, if_pos hcounted, exact_of_view h]
    exact Fixed.value_round b places
  uncounted := by
    intro hnot
    rw [Fixed.shown, if_neg fun hcounted => hnot ⟨b, h, hcounted⟩, Fixed.value, Nat.cast_zero,
      zero_div, mul_zero]

theorem Counted.abs {x : Float} {places : Nat} (h : Counted x places) : Counted x.abs places := by
  obtain ⟨b, hb, hcounted⟩ := h
  exact ⟨b.abs, view_abs hb, hcounted⟩

/-- Every finite double is rounded to some decimal. -/
theorem exists_roundedTo {x : Float} (hx : x.isFinite = true) (places : Nat) :
    ∃ r, RoundedTo (exact x) places r := by
  obtain ⟨b, hb⟩ := exists_view hx
  rw [exact_of_view hb]
  exact ⟨_, Fixed.value_round b places⟩

namespace Fixed

/-- A fixed-point decimal in positional notation. -/
def positional (d : Fixed) : Positional where
  negative := d.negative
  whole := d.whole
  fraction := lastDigits d.places d.units
  allDigits_whole := allDigits_wholeDigits _
  whole_ne_nil := wholeDigits_ne_nil _
  allDigits_fraction := allDigits_lastDigits _ _

theorem units_positional (d : Fixed) : d.positional.units = d.units := by
  change natOfDigits (d.whole ++ lastDigits d.places d.units) = d.units
  rw [natOfDigits_append, whole, natOfDigits_wholeDigits, natOfDigits_lastDigits, length_lastDigits,
    Nat.pow_eq, Nat.div_add_mod']

theorem value_positional (d : Fixed) : d.positional.value = d.value := by
  rw [Positional.value_eq, units_positional]
  change _ * (_ / 10 ^ (lastDigits d.places d.units).length) = _
  rw [length_lastDigits]
  rfl

theorem fraction_eq_pointed (d : Fixed) : d.fraction = pointed (lastDigits d.places d.units) := by
  rw [fraction]
  split
  · rename_i hzero
    rw [hzero]
    rfl
  · rename_i hne
    refine (pointed_of_ne_nil fun hnil => hne ?_).symm
    rw [← length_lastDigits d.places d.units, hnil]
    rfl

end Fixed

/-! ## Commas -/

theorem filter_commasFromEnd {cs : List Char} (h : ',' ∉ cs) :
    (commasFromEnd cs).filter (· != ',') = cs := by
  have hkeep : ∀ c ∈ cs, (c != ',') = true := by
    intro c hc
    rw [bne_iff_ne]
    rintro rfl
    exact h hc
  fun_induction commasFromEnd cs with
  | case1 a b c d rest ih =>
    simp only [List.forall_mem_cons] at hkeep
    obtain ⟨ha, hb, hc, hrest⟩ := hkeep
    have hnot : ',' ∉ d :: rest := fun hmem =>
      h (List.mem_cons_of_mem a (List.mem_cons_of_mem b (List.mem_cons_of_mem c hmem)))
    simp only [List.filter_cons, ha, hb, hc, bne_self_eq_false, Bool.false_eq_true, if_true,
      if_false, ih hnot (List.forall_mem_cons.2 hrest)]
  | case2 digits => exact List.filter_eq_self.2 hkeep

/-- Without its commas the text has the digits that it had before. -/
theorem filter_withCommas {cs : List Char} (h : ',' ∉ cs) :
    (withCommas cs).filter (· != ',') = cs := by
  rw [withCommas, List.filter_reverse, filter_commasFromEnd (by rwa [List.mem_reverse]),
    List.reverse_reverse]

theorem mem_withCommas {cs : List Char} {c : Char} (h : ',' ∉ cs) (hc : c ∈ withCommas cs) :
    c = ',' ∨ c ∈ cs := by
  by_cases hcomma : c = ','
  · exact .inl hcomma
  · rw [← filter_withCommas h]
    exact .inr (List.mem_filter.2 ⟨hc, bne_iff_ne.2 hcomma⟩)

namespace Positional

/-- The digits before the point, with commas or without. -/
def wholeText (p : Positional) (commas : Bool) : List Char :=
  if commas then withCommas p.whole else p.whole

/-- The text, with commas or without. -/
def spelled (p : Positional) (commas : Bool) : List Char :=
  (if p.negative then ['-'] else []) ++ (p.wholeText commas ++ pointed p.fraction)

theorem comma_notMem (p : Positional) : ',' ∉ p.whole :=
  p.allDigits_whole.notMem rfl

theorem filter_wholeText (p : Positional) (commas : Bool) :
    (p.wholeText commas).filter (· != ',') = p.whole := by
  cases commas with
  | false =>
    refine List.filter_eq_self.2 fun c hc => bne_iff_ne.2 ?_
    rintro rfl
    exact p.comma_notMem hc
  | true => exact filter_withCommas p.comma_notMem

theorem mem_wholeText {p : Positional} {commas : Bool} {c : Char} (hc : c ∈ p.wholeText commas) :
    c = ',' ∨ c.isDigit = true := by
  cases commas with
  | false => exact .inr (p.allDigits_whole c hc)
  | true => exact (mem_withCommas p.comma_notMem hc).imp_right (p.allDigits_whole c)

theorem filter_pointed {cs : List Char} (h : AllDigits cs) :
    (pointed cs).filter (· != ',') = pointed cs := by
  have hkeep : ∀ c ∈ cs, (c != ',') = true := by
    intro c hc
    rw [bne_iff_ne]
    rintro rfl
    cases h ',' hc
  cases cs with
  | nil => rfl
  | cons c cs =>
    rw [pointed, List.filter_cons_of_pos (by decide), List.filter_eq_self.2 hkeep]

/-- Taking the commas out gives the text without commas. -/
theorem filter_spelled (p : Positional) (commas : Bool) :
    (p.spelled commas).filter (· != ',') = p.text := by
  have hsign : (if p.negative then ['-'] else [] : List Char).filter (· != ',') =
      if p.negative then ['-'] else [] := by
    cases p.negative <;> rfl
  rw [spelled, List.filter_append, List.filter_append, hsign, filter_wholeText,
    filter_pointed p.allDigits_fraction, text, unsigned]

end Positional

theorem Fixed.text_eq_spelled (d : Fixed) (commas : Bool) :
    d.text commas = d.positional.spelled commas := by
  rw [text, fraction_eq_pointed]
  rfl

end Scorecard.Decimal
