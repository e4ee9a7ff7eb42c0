import Mathlib.Algebra.Order.Field.Rat
import Mathlib.Data.List.TakeWhile
import Mathlib.Tactic.FieldSimp
import Mathlib.Tactic.Linarith
import Mathlib.Tactic.LinearCombination
import Mathlib.Tactic.Positivity
import Mathlib.Tactic.Ring
import Scorecard.Decimal.Fixed
import Scorecard.Decimal.Numeral

/-!
# Positional notation

A decimal in positional notation is a sign, digits, and further digits after a point. Its text can
be taken apart in one way only, so it denotes one number. The other way round a number has many
texts, of which one is canonical: it has no zeros in front or at its end that could be left out, no
point without digits after it, and no sign at a zero.
-/

namespace Scorecard.Decimal

/-! ## Digits -/

theorem isDigit_iff {c : Char} : c.isDigit = true ↔ 48 ≤ c.toNat ∧ c.toNat ≤ 57 := by
  unfold Char.isDigit
  rw [Bool.and_eq_true, decide_eq_true_eq, decide_eq_true_eq]
  exact Iff.rfl

theorem toNat_digitChar {n : Nat} (h : n < 10) : (digitChar n).toNat = 48 + n := by
  have hvalid : (48 + n).isValidChar := .inl (by omega)
  rw [digitChar, Char.ofNat, dif_pos hvalid]
  exact UInt32.toNat_ofNatLT

theorem isDigit_digitChar {n : Nat} (h : n < 10) : (digitChar n).isDigit = true := by
  rw [isDigit_iff, toNat_digitChar h]
  omega

theorem digitChar_toNat {c : Char} (h : c.isDigit = true) : digitChar (c.toNat - 48) = c := by
  have hbounds := isDigit_iff.1 h
  rw [digitChar, Nat.add_sub_cancel' hbounds.1, Char.ofNat_toNat]

/-- Characters that are digits of ASCII. -/
def AllDigits (cs : List Char) : Prop :=
  ∀ c ∈ cs, c.isDigit = true

instance : DecidablePred AllDigits :=
  fun cs => decidable_of_iff (cs.all Char.isDigit = true) List.all_eq_true

theorem AllDigits.append {a b : List Char} (ha : AllDigits a) (hb : AllDigits b) :
    AllDigits (a ++ b) :=
  List.forall_mem_append.2 ⟨ha, hb⟩

theorem AllDigits.notMem {cs : List Char} (h : AllDigits cs) {c : Char} (hc : c.isDigit = false) :
    c ∉ cs := by
  intro hmem
  rw [h c hmem] at hc
  cases hc

theorem natOfDigits_concat (a : List Char) (c : Char) :
    natOfDigits (a ++ [c]) = 10 * natOfDigits a + (c.toNat - 48) := by
  rw [natOfDigits, List.foldl_append]
  rfl

theorem natOfDigits_append (a b : List Char) :
    natOfDigits (a ++ b) = natOfDigits a * 10 ^ b.length + natOfDigits b := by
  induction b using List.reverseRecOn with
  | nil => simp [natOfDigits]
  | append_singleton b c ih =>
    rw [← List.append_assoc, natOfDigits_concat, natOfDigits_concat, ih, List.length_append,
      List.length_singleton, Nat.pow_succ]
    ring

theorem natOfDigits_lt {cs : List Char} (h : AllDigits cs) :
    natOfDigits cs < 10 ^ cs.length := by
  induction cs using List.reverseRecOn with
  | nil => decide
  | append_singleton cs c ih =>
    obtain ⟨hcs, hc⟩ := List.forall_mem_append.1 h
    have hbounds := isDigit_iff.1 (hc c (List.mem_singleton_self c))
    have hlt := ih hcs
    rw [natOfDigits_concat, List.length_append, List.length_singleton, Nat.pow_succ]
    omega

theorem length_lastDigits (width n : Nat) : (lastDigits width n).length = width := by
  induction width generalizing n with
  | zero => rfl
  | succ width ih => rw [lastDigits, List.length_append, ih, List.length_singleton]

theorem allDigits_lastDigits (width n : Nat) : AllDigits (lastDigits width n) := by
  induction width generalizing n with
  | zero => exact fun _ hc => absurd hc List.not_mem_nil
  | succ width ih =>
    rw [lastDigits]
    refine (ih _).append fun c hc => ?_
    rw [List.mem_singleton.1 hc]
    exact isDigit_digitChar (Nat.mod_lt n (by decide))

/-- The last digits do not depend on those in front of them. -/
theorem lastDigits_mod (width n : Nat) :
    lastDigits width (n % 10 ^ width) = lastDigits width n := by
  induction width generalizing n with
  | zero => rfl
  | succ width ih =>
    have hrest : n % 10 ^ (width + 1) / 10 = n / 10 % 10 ^ width := by
      rw [Nat.pow_succ', Nat.mod_mul_right_div_self]
    have hdigit : n % 10 ^ (width + 1) % 10 = n % 10 := by
      rw [Nat.pow_succ', Nat.mod_mul_right_mod]
    rw [lastDigits, lastDigits, hrest, hdigit, ih]

theorem natOfDigits_lastDigits (width n : Nat) :
    natOfDigits (lastDigits width n) = n % 10 ^ width := by
  induction width generalizing n with
  | zero =>
    rw [Nat.pow_zero, Nat.mod_one]
    rfl
  | succ width ih =>
    have hdigit := toNat_digitChar (Nat.mod_lt n (by decide : 0 < 10))
    rw [lastDigits, natOfDigits_concat, ih, hdigit, Nat.pow_succ', Nat.mod_mul]
    omega

/-- Digits are those of the number that they denote. -/
theorem lastDigits_natOfDigits {cs : List Char} (h : AllDigits cs) :
    lastDigits cs.length (natOfDigits cs) = cs := by
  induction cs using List.reverseRecOn with
  | nil => rfl
  | append_singleton cs c ih =>
    obtain ⟨hcs, hc⟩ := List.forall_mem_append.1 h
    have hdigit := hc c (List.mem_singleton_self c)
    have hbounds := isDigit_iff.1 hdigit
    have hquotient : (10 * natOfDigits cs + (c.toNat - 48)) / 10 = natOfDigits cs := by omega
    have hrest : (10 * natOfDigits cs + (c.toNat - 48)) % 10 = c.toNat - 48 := by omega
    rw [List.length_append, List.length_singleton, natOfDigits_concat, lastDigits, hquotient, hrest,
      ih hcs, digitChar_toNat hdigit]

theorem allDigits_wholeDigits (n : Nat) : AllDigits (wholeDigits n) := by
  fun_induction wholeDigits n with
  | case1 n h =>
    intro c hc
    rw [List.mem_singleton.1 hc]
    exact isDigit_digitChar h
  | case2 n h ih =>
    refine ih.append fun c hc => ?_
    rw [List.mem_singleton.1 hc]
    exact isDigit_digitChar (Nat.mod_lt n (by decide))

theorem wholeDigits_ne_nil (n : Nat) : wholeDigits n ≠ [] := by
  rw [wholeDigits]
  split <;> simp

theorem natOfDigits_wholeDigits (n : Nat) : natOfDigits (wholeDigits n) = n := by
  fun_induction wholeDigits n with
  | case1 n h =>
    have hdigit := toNat_digitChar h
    rw [natOfDigits, List.foldl_cons, List.foldl_nil, hdigit]
    omega
  | case2 n h ih =>
    have hdigit := toNat_digitChar (Nat.mod_lt n (by decide : 0 < 10))
    rw [natOfDigits_concat, ih, hdigit]
    omega

/-- A number has more than `k` digits exactly if it is `10 ^ k` or more. -/
theorem lt_length_wholeDigits_iff {n k : Nat} (hk : 0 < k) :
    k < (wholeDigits n).length ↔ 10 ^ k ≤ n := by
  induction k, hk using Nat.le_induction generalizing n with
  | base =>
    rw [wholeDigits]
    split
    · simp
      omega
    · have := List.length_pos_of_ne_nil (wholeDigits_ne_nil (n / 10))
      simp
      omega
  | succ k hk ih =>
    rw [wholeDigits, pow_succ, ← Nat.le_div_iff_mul_le (by decide), ← ih]
    split
    · rename_i hsmall
      have hzero : n / 10 = 0 := by omega
      simp [hzero, wholeDigits]
      omega
    · simp

theorem natOfDigits_pos {cs : List Char} (h : AllDigits cs) (hne : cs ≠ [])
    (hhead : cs.head? ≠ some '0') : 0 < natOfDigits cs := by
  obtain ⟨c, cs, rfl⟩ := List.exists_cons_of_ne_nil hne
  have hdigit := h c List.mem_cons_self
  have hbounds := isDigit_iff.1 hdigit
  have hzero : c.toNat - 48 ≠ 0 := by
    intro hzero
    have hchar := digitChar_toNat hdigit
    rw [hzero] at hchar
    exact hhead (congrArg some hchar.symm)
  have hsplit := natOfDigits_append [c] cs
  have hone : natOfDigits [c] = c.toNat - 48 := by simp [natOfDigits]
  have hpower : 0 < 10 ^ cs.length := Nat.pow_pos (by decide)
  rw [List.singleton_append, hone] at hsplit
  have := Nat.mul_pos (Nat.pos_of_ne_zero hzero) hpower
  omega

/-- The digits of a whole number are the only ones that denote it without a zero in front. -/
theorem wholeDigits_natOfDigits {cs : List Char} (h : AllDigits cs) (hne : cs ≠ [])
    (hhead : cs.head? = some '0' → cs = ['0']) : wholeDigits (natOfDigits cs) = cs := by
  induction cs using List.reverseRecOn with
  | nil => exact absurd rfl hne
  | append_singleton cs c ih =>
    obtain ⟨hcs, hc⟩ := List.forall_mem_append.1 h
    have hdigit := hc c (List.mem_singleton_self c)
    have hbounds := isDigit_iff.1 hdigit
    rw [natOfDigits_concat, wholeDigits]
    by_cases hnil : cs = []
    · have hlt : 10 * natOfDigits cs + (c.toNat - 48) < 10 := by
        rw [hnil]
        change 10 * 0 + _ < 10
        omega
      rw [if_pos hlt, hnil]
      change [digitChar (10 * 0 + (c.toNat - 48))] = [c]
      rw [Nat.mul_zero, Nat.zero_add, digitChar_toNat hdigit]
    · have hfront : cs.head? ≠ some '0' := by
        intro hzero
        have hsame : (cs ++ [c]).head? = some '0' := by
          rw [List.head?_append_of_ne_nil _ hnil, hzero]
        have hlength : (cs ++ [c]).length = 1 := congrArg List.length (hhead hsame)
        have hpos := List.length_pos_of_ne_nil hnil
        rw [List.length_append, List.length_singleton] at hlength
        omega
      have hpos := natOfDigits_pos hcs hnil hfront
      have hquotient : (10 * natOfDigits cs + (c.toNat - 48)) / 10 = natOfDigits cs := by omega
      have hrest : (10 * natOfDigits cs + (c.toNat - 48)) % 10 = c.toNat - 48 := by omega
      rw [if_neg (by omega), hquotient, hrest, ih hcs hnil fun hzero => absurd hzero hfront,
        digitChar_toNat hdigit]

/-- A positive number has no zero in front. -/
theorem head?_wholeDigits {n : Nat} (hn : 0 < n) : (wholeDigits n).head? ≠ some '0' := by
  fun_induction wholeDigits n with
  | case1 n h =>
    intro hhead
    have hchar := congrArg Char.toNat (Option.some.inj hhead)
    rw [toNat_digitChar h] at hchar
    change 48 + n = 48 at hchar
    omega
  | case2 n h ih =>
    rw [List.head?_append_of_ne_nil _ (wholeDigits_ne_nil _)]
    exact ih (by omega)

/-- A zero in front stands alone. -/
theorem wholeDigits_of_head? {n : Nat} (h : (wholeDigits n).head? = some '0') :
    wholeDigits n = ['0'] := by
  by_cases hn : n = 0
  · rw [hn, wholeDigits]
    rfl
  · exact absurd h (head?_wholeDigits (Nat.pos_of_ne_zero hn))

/-! ## Decimals -/

/-- The number that a numeral denotes. -/
def Numeral.value (n : Numeral) : ℚ :=
  (if n.negative then -1 else 1) * (n.digits * 10 ^ n.exponent)

/-- Digits after the point, with the point; nothing if there are none. -/
def pointed : List Char → List Char
  | [] => []
  | c :: cs => '.' :: c :: cs

theorem pointed_of_ne_nil {cs : List Char} (h : cs ≠ []) : pointed cs = '.' :: cs := by
  cases cs with
  | nil => exact absurd rfl h
  | cons c cs => rfl

/-- Digits end at the first other character. -/
theorem AllDigits.span {cs : List Char} (h : AllDigits cs) (rest : List Char)
    (hrest : ∀ c ∈ rest.head?, c.isDigit = false) :
    (cs ++ rest).takeWhile Char.isDigit = cs ∧ (cs ++ rest).dropWhile Char.isDigit = rest := by
  rw [List.takeWhile_append_of_pos h, List.dropWhile_append_of_pos h]
  cases rest with
  | nil => exact ⟨List.append_nil cs, rfl⟩
  | cons c rest =>
    have hstop : ¬ c.isDigit = true := by simp [hrest c rfl]
    rw [List.takeWhile_cons_of_neg hstop, List.dropWhile_cons_of_neg hstop]
    exact ⟨List.append_nil cs, rfl⟩

/-- Digits before and after a point are read as one number. One of the sides may be empty. -/
theorem unsigned?_point {whole fraction : List Char} (hwhole : AllDigits whole)
    (hfraction : AllDigits fraction) (hne : whole ++ fraction ≠ []) :
    unsigned? (whole ++ '.' :: fraction) =
      some (natOfDigits (whole ++ fraction), -(fraction.length : Int)) := by
  have hspan := hwhole.span ('.' :: fraction) (by simp)
  have hrest := hfraction.span [] (by simp)
  have hsome : ¬ (whole.isEmpty && fraction.isEmpty) = true := by
    rw [Bool.and_eq_true, List.isEmpty_iff, List.isEmpty_iff, ← List.append_eq_nil_iff]
    exact hne
  rw [List.append_nil] at hrest
  simp only [unsigned?, hspan, hrest, exponent?]
  rw [if_neg hsome, Option.map_some, Int.zero_sub]

/-- Digits and further digits after a point are read as one number. -/
theorem unsigned?_pointed {whole fraction : List Char} (hwhole : AllDigits whole)
    (hne : whole ≠ []) (hfraction : AllDigits fraction) :
    unsigned? (whole ++ pointed fraction) =
      some (natOfDigits (whole ++ fraction), -(fraction.length : Int)) := by
  cases fraction with
  | nil =>
    have hspan := hwhole.span [] (by simp)
    simp only [unsigned?, pointed, hspan, List.isEmpty_eq_false_iff.2 hne]
    rfl
  | cons c cs => exact unsigned?_point hwhole hfraction (by simp)

/-- A text that starts with another character has no sign. -/
theorem takeSign_of_head {cs : List Char} (h : ∀ c ∈ cs.head?, c ≠ '-' ∧ c ≠ '+') :
    takeSign cs = (false, cs) := by
  unfold takeSign
  split
  · exact absurd rfl (h '-' rfl).1
  · exact absurd rfl (h '+' rfl).2
  · rfl

/-- A decimal in positional notation. -/
@[ext]
structure Positional where
  /-- Whether there is a minus sign. -/
  negative : Bool
  /-- The digits before the point. -/
  whole : List Char
  /-- The digits after the point; if there are none, there is no point. -/
  fraction : List Char
  /-- What stands before the point is digits. -/
  allDigits_whole : AllDigits whole
  /-- There is a digit before the point. -/
  whole_ne_nil : whole ≠ []
  /-- What stands after the point is digits. -/
  allDigits_fraction : AllDigits fraction

namespace Positional

/-- The text without the sign. -/
def unsigned (p : Positional) : List Char :=
  p.whole ++ pointed p.fraction

/-- The text. -/
def text (p : Positional) : List Char :=
  (if p.negative then ['-'] else []) ++ p.unsigned

/-- The numeral that the text is read as. -/
def numeral (p : Positional) : Numeral :=
  ⟨p.negative, natOfDigits (p.whole ++ p.fraction), -p.fraction.length⟩

/-- The number that the text denotes. -/
def value (p : Positional) : ℚ :=
  p.numeral.value

/-- The text starts with a digit if it has no sign. -/
theorem exists_digit_unsigned (p : Positional) :
    ∃ c cs, p.unsigned = c :: cs ∧ c.isDigit = true := by
  obtain ⟨c, cs, hwhole⟩ := List.exists_cons_of_ne_nil p.whole_ne_nil
  refine ⟨c, cs ++ pointed p.fraction, ?_, p.allDigits_whole c ?_⟩
  · rw [unsigned, hwhole, List.cons_append]
  · rw [hwhole]
    exact List.mem_cons_self

theorem takeSign_text (p : Positional) : takeSign p.text = (p.negative, p.unsigned) := by
  rw [text]
  cases p.negative with
  | true => rfl
  | false =>
    obtain ⟨c, cs, hcons, hdigit⟩ := p.exists_digit_unsigned
    have hne : c ≠ '-' ∧ c ≠ '+' := by
      constructor <;> rintro rfl <;> cases hdigit
    rw [hcons]
    exact takeSign_of_head fun d hd => Option.some.inj hd ▸ hne

theorem unsigned?_unsigned (p : Positional) :
    unsigned? p.unsigned = some (p.numeral.digits, p.numeral.exponent) :=
  unsigned?_pointed p.allDigits_whole p.whole_ne_nil p.allDigits_fraction

/-- The text of a decimal is read as its numeral. -/
theorem numeral?_text (p : Positional) : numeral? p.text = some p.numeral := by
  simp only [numeral?, takeSign_text, unsigned?_unsigned]
  rfl

end Positional

/-- A text that denotes a number in positional notation. -/
def Denotes (cs : List Char) (q : ℚ) : Prop :=
  ∃ p : Positional, p.text = cs ∧ p.value = q

/-- A text denotes one number. -/
theorem Denotes.unique {cs : List Char} {q r : ℚ} (hq : Denotes cs q) (hr : Denotes cs r) :
    q = r := by
  obtain ⟨p, hp, rfl⟩ := hq
  obtain ⟨p', hp', rfl⟩ := hr
  have hsame := p.numeral?_text
  rw [hp, ← hp', p'.numeral?_text] at hsame
  rw [Positional.value, Positional.value, Option.some.inj hsame]

/-! ## Canonical texts -/

namespace Positional

/-- A decimal whose text has nothing that could be left out. -/
structure Canonical (p : Positional) : Prop where
  /-- Only a zero has a zero in front. -/
  whole : p.whole.head? = some '0' → p.whole = ['0']
  /-- The digits after the point do not end in a zero. -/
  fraction : p.fraction.getLast? ≠ some '0'
  /-- A zero has no sign. -/
  sign : p.negative = true → p.value ≠ 0

/-- The magnitude in units of the last place. -/
def units (p : Positional) : Nat :=
  natOfDigits (p.whole ++ p.fraction)

theorem value_eq (p : Positional) :
    p.value = (if p.negative then -1 else 1) * (p.units / 10 ^ p.fraction.length) := by
  rw [value, Numeral.value, numeral, zpow_neg, zpow_natCast, div_eq_mul_inv, units]

theorem abs_value (p : Positional) : |p.value| = p.units / 10 ^ p.fraction.length := by
  have hnonneg : (0 : ℚ) ≤ p.units / 10 ^ p.fraction.length := by positivity
  rw [value_eq, abs_mul, abs_of_nonneg hnonneg]
  cases p.negative <;> simp

/-- The sign of a canonical decimal is that of its number. -/
theorem Canonical.negative_iff {p : Positional} (h : p.Canonical) :
    p.negative = true ↔ p.value < 0 := by
  have hvalue := p.value_eq
  have hnonneg : (0 : ℚ) ≤ p.units / 10 ^ p.fraction.length := by positivity
  constructor
  · intro hnegative
    have hne := h.sign hnegative
    rw [hnegative, if_pos rfl] at hvalue
    exact lt_of_le_of_ne (by linarith) hne
  · intro hlt
    by_contra hpositive
    rw [if_neg hpositive, one_mul] at hvalue
    linarith

theorem units_append (p : Positional) :
    p.units = natOfDigits p.whole * 10 ^ p.fraction.length + natOfDigits p.fraction :=
  natOfDigits_append p.whole p.fraction

/-- The digits of a decimal are those of its units. -/
theorem fraction_eq (p : Positional) : p.fraction = lastDigits p.fraction.length p.units := by
  have hmod : p.units % 10 ^ p.fraction.length = natOfDigits p.fraction := by
    rw [units_append, Nat.mul_comm, Nat.mul_add_mod,
      Nat.mod_eq_of_lt (natOfDigits_lt p.allDigits_fraction)]
  rw [← lastDigits_mod, hmod, lastDigits_natOfDigits p.allDigits_fraction]

theorem Canonical.whole_eq {p : Positional} (h : p.Canonical) :
    p.whole = wholeDigits (p.units / 10 ^ p.fraction.length) := by
  have hdiv : p.units / 10 ^ p.fraction.length = natOfDigits p.whole := by
    rw [units_append, Nat.mul_comm, Nat.mul_add_div (Nat.pow_pos (by decide)),
      Nat.div_eq_of_lt (natOfDigits_lt p.allDigits_fraction), Nat.add_zero]
  rw [hdiv, wholeDigits_natOfDigits p.allDigits_whole p.whole_ne_nil h.whole]

/-- Of two decimals for one number the canonical one has no more places. -/
theorem Canonical.length_le {p p' : Positional} (h : p.Canonical) (hvalue : p.value = p'.value) :
    p.fraction.length ≤ p'.fraction.length := by
  by_contra hlt
  obtain ⟨k, hk⟩ : ∃ k, p.fraction.length = p'.fraction.length + (k + 1) :=
    ⟨p.fraction.length - p'.fraction.length - 1, by omega⟩
  have hunits : p.units = 10 * (p'.units * 10 ^ k) := by
    have habs := p.abs_value
    rw [hvalue, p'.abs_value, hk, pow_add, pow_succ, div_eq_div_iff (by positivity) (by positivity)]
      at habs
    have hpower : (10 : ℚ) ^ p'.fraction.length ≠ 0 := by positivity
    have hcast : (p.units : ℚ) = (10 * (p'.units * 10 ^ k) : Nat) := by
      apply mul_right_cancel₀ hpower
      push_cast
      linear_combination -habs
    exact_mod_cast hcast
  apply h.fraction
  rw [fraction_eq, hk, ← Nat.add_assoc, lastDigits, List.getLast?_concat, hunits,
    Nat.mul_mod_right]
  rfl

/-- A number has one canonical decimal. -/
theorem Canonical.eq {p p' : Positional} (h : p.Canonical) (h' : p'.Canonical)
    (hvalue : p.value = p'.value) : p = p' := by
  have hlength : p.fraction.length = p'.fraction.length :=
    Nat.le_antisymm (h.length_le hvalue) (h'.length_le hvalue.symm)
  have hunits : p.units = p'.units := by
    have habs := p.abs_value
    rw [hvalue, p'.abs_value, hlength, div_left_inj' (by positivity)] at habs
    exact_mod_cast habs.symm
  refine Positional.ext ?_ ?_ ?_
  · rw [Bool.eq_iff_iff, h.negative_iff, h'.negative_iff, hvalue]
  · rw [h.whole_eq, h'.whole_eq, hunits, hlength]
  · rw [fraction_eq, fraction_eq p', hunits, hlength]

/-- The decimal with no other digit than a zero. -/
def zero : Positional where
  negative := false
  whole := ['0']
  fraction := []
  allDigits_whole := by decide
  whole_ne_nil := by decide
  allDigits_fraction := by decide

theorem canonical_zero : zero.Canonical :=
  ⟨fun _ => rfl, by decide, nofun⟩

theorem value_zero : zero.value = 0 := by
  rw [value_eq]
  simp [zero, units, natOfDigits]

theorem fraction_ne_nil {p : Positional} (h : '.' ∈ p.text) : p.fraction ≠ [] := by
  intro hnil
  have hwhole := p.allDigits_whole.notMem (c := '.') rfl
  rw [text, unsigned, hnil, pointed, List.append_nil] at h
  rcases List.mem_append.1 h with hsign | hdigits
  · split at hsign
    · revert hsign
      decide
    · exact List.not_mem_nil hsign
  · exact hwhole hdigits

/-- After a point the canonical text ends in a digit other than zero. -/
theorem Canonical.last_text {p : Positional} (h : p.Canonical) (hpoint : '.' ∈ p.text) :
    ∀ c ∈ p.text.getLast?, c ≠ '0' ∧ c ≠ '.' := by
  have hne := fraction_ne_nil hpoint
  have hlast : p.text.getLast? = p.fraction.getLast? := by
    rw [text, unsigned, pointed_of_ne_nil hne, List.append_cons, ← List.append_assoc,
      ← List.append_assoc, List.getLast?_append_of_ne_nil _ hne]
  rw [hlast]
  intro c hc
  refine ⟨fun hzero => h.fraction (hzero ▸ hc), ?_⟩
  rintro rfl
  cases p.allDigits_fraction '.' (List.mem_of_getLast? hc)

end Positional

end Scorecard.Decimal
