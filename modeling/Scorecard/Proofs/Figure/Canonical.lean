import Mathlib.Data.List.DropRight
import Scorecard.Proofs.Decimal.Fixed
import Scorecard.Proofs.Figure

/-!
# Rounded figures are canonical

Leaving out the zeros that end the places of a fixed-point text, the point that is then left at its
end, and the sign of a zero changes nothing about the number, and gives the one canonical text of
it. So two numbers have the same figure exactly if they are rounded to the same decimal.
-/

namespace Scorecard

namespace Figure

open Decimal
open Text (dropEndWhile)

/-! ## Leaving out zeros -/

theorem dropEndWhile_append_cons {p : Char → Bool} {c : Char} (hc : p c = false) (a b : List Char) :
    dropEndWhile p (a ++ c :: b) = a ++ c :: dropEndWhile p b := by
  change List.rdropWhile p _ = _ ++ _ :: List.rdropWhile p _
  induction b using List.reverseRecOn with
  | nil => rw [List.rdropWhile_concat_neg _ _ _ (by simp [hc]), List.rdropWhile_nil]
  | append_singleton b d ih =>
    rw [← List.cons_append, ← List.append_assoc]
    by_cases hd : p d = true
    · rw [List.rdropWhile_concat_pos _ _ _ hd, List.rdropWhile_concat_pos _ _ _ hd, ih]
    · rw [List.rdropWhile_concat_neg _ _ _ hd, List.rdropWhile_concat_neg _ _ _ hd,
        List.append_assoc, List.cons_append]

theorem dropEndWhile_of_last {p : Char → Bool} {cs : List Char} (h : ∀ c ∈ cs, p c = false) :
    dropEndWhile p cs = cs := by
  change List.rdropWhile p cs = cs
  rw [List.rdropWhile_eq_self_iff]
  intro hne
  simp [h _ (List.getLast_mem hne)]

/-- Only zeros of the fraction are left out. -/
theorem dropFraction_pointed {whole fraction : List Char} (hwhole : '.' ∉ whole)
    (hfraction : '.' ∉ fraction) :
    dropFraction (whole ++ pointed fraction) =
      whole ++ pointed (dropEndWhile (· = '0') fraction) := by
  have hnone {cs : List Char} (h : '.' ∉ cs) : ∀ c ∈ cs, decide (c = '.') = false := by
    intro c hc
    rw [decide_eq_false_iff_not]
    rintro rfl
    exact h hc
  by_cases hnil : fraction = []
  · rw [hnil]
    have hpoint : (whole ++ pointed []).contains '.' = false := by
      rw [pointed, List.append_nil]
      simpa using hwhole
    rw [dropFraction, if_neg (by rw [hpoint]; exact Bool.false_ne_true)]
    rfl
  · rw [pointed_of_ne_nil hnil, dropFraction, if_pos (by simp),
      dropEndWhile_append_cons (by decide)]
    have hrest : '.' ∉ dropEndWhile (· = '0') fraction := fun hmem =>
      hfraction ((List.rdropWhile_prefix _ _).subset hmem)
    by_cases hkept : dropEndWhile (· = '0') fraction = []
    · rw [hkept, pointed, List.append_nil]
      change List.rdropWhile _ (whole ++ ['.']) = whole
      rw [List.rdropWhile_concat_pos _ _ _ (by decide)]
      exact dropEndWhile_of_last (hnone hwhole)
    · obtain ⟨front, last, hlast⟩ := (List.eq_nil_or_concat' _).resolve_left hkept
      have hpoint : ¬ decide (last = '.') = true := by
        rw [decide_eq_true_eq]
        rintro rfl
        exact hrest (hlast ▸ List.mem_append_right front (List.mem_singleton_self _))
      rw [pointed_of_ne_nil hkept, hlast, ← List.cons_append, ← List.append_assoc]
      exact List.rdropWhile_concat_neg _ _ _ hpoint

end Figure

namespace Decimal.Positional

open Text (dropEndWhile)

/-! ## The shortened decimal -/

/-- A decimal without the zeros at its end and without the sign of a zero. -/
def shortened (p : Positional) : Positional where
  negative := p.negative && p.units != 0
  whole := p.whole
  fraction := dropEndWhile (· = '0') p.fraction
  allDigits_whole := p.allDigits_whole
  whole_ne_nil := p.whole_ne_nil
  allDigits_fraction := fun c hc =>
    p.allDigits_fraction c ((List.rdropWhile_prefix _ _).subset hc)

theorem exists_zeros (p : Positional) :
    ∃ k, p.fraction = p.shortened.fraction ++ List.replicate k '0' := by
  refine ⟨(p.fraction.rtakeWhile (· = '0')).length, ?_⟩
  have hzeros : p.fraction.rtakeWhile (· = '0') =
      List.replicate (p.fraction.rtakeWhile (· = '0')).length '0' :=
    List.eq_replicate_iff.2 ⟨rfl, fun c hc => by simpa using List.mem_rtakeWhile_imp hc⟩
  rw [← hzeros]
  exact (List.rdropWhile_append_rtakeWhile).symm

theorem natOfDigits_append_zeros (cs : List Char) (k : Nat) :
    natOfDigits (cs ++ List.replicate k '0') = natOfDigits cs * 10 ^ k := by
  have hzero : natOfDigits (List.replicate k '0') = 0 := by
    induction k with
    | zero => rfl
    | succ k ih =>
      rw [List.replicate_succ', natOfDigits_concat, ih]
      rfl
  rw [natOfDigits_append, hzero, List.length_replicate, Nat.add_zero]

theorem value_shortened (p : Positional) : p.shortened.value = p.value := by
  obtain ⟨k, hk⟩ := p.exists_zeros
  have hunits : p.units = p.shortened.units * 10 ^ k := by
    rw [units, hk, ← List.append_assoc, natOfDigits_append_zeros]
    rfl
  have hlength : p.fraction.length = p.shortened.fraction.length + k := by
    rw [hk, List.length_append, List.length_replicate]
  have hmagnitude : (p.units : ℚ) / 10 ^ p.fraction.length =
      p.shortened.units / 10 ^ p.shortened.fraction.length := by
    rw [hunits, hlength, pow_add, Nat.cast_mul, Nat.cast_pow, Nat.cast_ofNat]
    exact mul_div_mul_right _ _ (by positivity)
  rw [value_eq, value_eq, hmagnitude]
  by_cases hzero : p.units = 0
  · have hnone : (p.shortened.units : ℚ) / 10 ^ p.shortened.fraction.length = 0 := by
      rw [← hmagnitude, hzero, Nat.cast_zero, zero_div]
    rw [hnone, mul_zero, mul_zero]
  · have hsign : p.shortened.negative = p.negative := by
      rw [shortened, bne_iff_ne.2 hzero, Bool.and_true]
    rw [hsign]

/-- Shortening is canonical if the whole part is. -/
theorem canonical_shortened {p : Positional} (h : p.whole.head? = some '0' → p.whole = ['0']) :
    p.shortened.Canonical where
  whole := h
  fraction := by
    intro hlast
    have hne : p.shortened.fraction ≠ [] := by
      intro hnil
      rw [hnil] at hlast
      cases hlast
    have hstop := List.rdropWhile_last_not (· = '0') p.fraction hne
    rw [List.getLast?_eq_some_getLast hne] at hlast
    exact hstop (decide_eq_true (Option.some.inj hlast))
  sign := by
    intro hnegative
    have hne : p.units ≠ 0 := bne_iff_ne.1 (Bool.and_eq_true_iff.1 hnegative).2
    rw [value_shortened, ← abs_pos, abs_value]
    have hpos : (0 : ℚ) < p.units := by exact_mod_cast Nat.pos_of_ne_zero hne
    positivity

/-- Of a zero only the digit before the point is left. -/
theorem shortened_eq_zero {p : Positional} (h : p.whole.head? = some '0' → p.whole = ['0'])
    (hzero : p.units = 0) : p.shortened = zero := by
  refine (canonical_shortened h).eq canonical_zero ?_
  rw [value_shortened, value_zero, value_eq, hzero, Nat.cast_zero, zero_div, mul_zero]

theorem wholeText_ne_nil (p : Positional) (commas : Bool) : p.wholeText commas ≠ [] := by
  intro hnil
  have hwhole := p.filter_wholeText commas
  rw [hnil] at hwhole
  exact p.whole_ne_nil hwhole.symm

theorem dot_notMem_wholeText (p : Positional) (commas : Bool) : '.' ∉ p.wholeText commas := by
  intro hdot
  rcases mem_wholeText hdot with hcomma | hdigit
  · revert hcomma
    decide
  · cases hdigit

/-- Without a sign the text does not start with one. -/
theorem head?_wholeText_append (p : Positional) (commas : Bool) (cs : List Char) :
    (p.wholeText commas ++ cs).head? ≠ some '-' := by
  intro hhead
  rw [List.head?_append_of_ne_nil _ (p.wholeText_ne_nil commas)] at hhead
  rcases mem_wholeText (List.mem_of_head? hhead) with hcomma | hdigit
  · revert hcomma
    decide
  · cases hdigit

/-- A canonical decimal with a sign is not written as a negative zero. -/
theorem Canonical.spelled_ne {p : Positional} (h : p.Canonical) (commas : Bool) :
    p.spelled commas ≠ ['-', '0'] := by
  intro hspelled
  have htext : p.text = ['-', '0'] := by
    rw [← p.filter_spelled commas, hspelled]
    rfl
  have hread := p.numeral?_text
  have hzero : numeral? ['-', '0'] = some ⟨true, 0, 0⟩ := by rfl
  rw [htext, hzero] at hread
  have hnumeral : p.numeral = ⟨true, 0, 0⟩ := (Option.some.inj hread).symm
  have hnegative : p.negative = true := congrArg Numeral.negative hnumeral
  refine h.sign hnegative ?_
  rw [value, hnumeral, Numeral.value]
  norm_num

end Decimal.Positional

namespace Figure

open Decimal

theorem dropFraction_spelled (p : Positional) (commas : Bool) :
    dropFraction (p.spelled commas) = (if p.negative then ['-'] else []) ++
      (p.wholeText commas ++ pointed p.shortened.fraction) := by
  have hsign : '.' ∉ (if p.negative then ['-'] else [] : List Char) := by
    cases p.negative <;> decide
  have hfraction : '.' ∉ p.fraction := p.allDigits_fraction.notMem rfl
  rw [Positional.spelled, ← List.append_assoc, dropFraction_pointed ?_ hfraction,
    List.append_assoc]
  · rfl
  · exact fun hmem => (List.mem_append.1 hmem).elim hsign (p.dot_notMem_wholeText commas)

/-- What is left of a fixed-point text is the shortened decimal. -/
theorem tidy_spelled {p : Positional} (h : p.whole.head? = some '0' → p.whole = ['0'])
    (commas : Bool) : tidy (p.spelled commas) = p.shortened.spelled commas := by
  have hcanonical := Positional.canonical_shortened h
  have hspelled : p.shortened.spelled commas = (if p.shortened.negative then ['-'] else []) ++
      (p.wholeText commas ++ pointed p.shortened.fraction) := rfl
  have hkeep (cs : List Char) (hzero : cs ≠ ['-', '0']) (hne : cs ≠ []) :
      (if (cs = ['-', '0'] || cs = []) = true then ['0'] else cs) = cs := by
    simp [hzero, hne]
  rw [tidy, dropFraction_spelled]
  by_cases hnegative : p.negative = p.shortened.negative
  · rw [hnegative, ← hspelled]
    refine hkeep _ (hcanonical.spelled_ne commas) fun hnil => ?_
    rw [hspelled] at hnil
    exact p.wholeText_ne_nil commas (List.append_eq_nil_iff.1 (List.append_eq_nil_iff.1 hnil).2).1
  · -- The sign of a zero is left out.
    have hzero : p.negative = true ∧ p.units = 0 := by
      change ¬ p.negative = (p.negative && p.units != 0) at hnegative
      cases hsign : p.negative <;> simp_all
    have hshortened := Positional.shortened_eq_zero h hzero.2
    have hwhole : p.wholeText commas = ['0'] := by
      have hdigit : p.whole = ['0'] := congrArg Positional.whole hshortened
      unfold Positional.wholeText
      rw [hdigit]
      cases commas <;> rfl
    rw [hspelled, hshortened, hzero.1, hwhole]
    rfl

/-! ## Rounded figures -/

theorem rounded_of_writable (x : Float) {places : Int} (h : Writable places) :
    rounded x places = .ok (String.ofList (tidy (fixedText x places.toNat false))) := by
  rw [rounded, places?_of_writable h]
  rfl

theorem grouped_of_writable (x : Float) {places : Int} (h : Writable places) :
    grouped x places = .ok (String.ofList (tidy (fixedText x places.toNat true))) := by
  rw [grouped, places?_of_writable h]
  rfl

/-- The most places with which any number is written digit by digit: the largest double has 309
digits before the point. -/
def exactPlaces : Nat := 2147483338

theorem counted_of_le {x : Float} (hx : x.isFinite = true) {places : Int}
    (h : places ≤ exactPlaces) : Counted x places.toNat := by
  refine counted_of_isFinite hx ?_
  unfold exactPlaces at h
  unfold mostDigits
  omega

/-- The decimal that the fixed-point text of a finite double shows. -/
theorem exists_positional {x : Float} (hx : x.isFinite = true) (places : Nat) :
    ∃ p : Positional, (∀ commas, fixedText x places commas = p.spelled commas) ∧
      Shows x places p.value ∧ (p.whole.head? = some '0' → p.whole = ['0']) := by
  obtain ⟨b, hb⟩ := exists_view hx
  refine ⟨(Fixed.shown b places).positional, fun commas => ?_, ?_, wholeDigits_of_head?⟩
  · rw [fixedText, hb]
    exact Fixed.text_eq_spelled _ _
  · rw [Fixed.value_positional]
    exact shows_shown hb places

/-- The canonical decimal that a figure of a finite double shows. -/
theorem exists_canonical {x : Float} (hx : x.isFinite = true) (places : Nat) :
    ∃ p : Positional, p.Canonical ∧
      (∀ commas, tidy (fixedText x places commas) = p.spelled commas) ∧
      Shows x places p.value ∧ Denotes (fixedText x places false) p.value := by
  obtain ⟨p, hp, hshows, hwhole⟩ := exists_positional hx places
  refine ⟨p.shortened, Positional.canonical_shortened hwhole, fun commas => ?_, ?_, ?_⟩
  · rw [hp, tidy_spelled hwhole]
  · rwa [Positional.value_shortened]
  · exact ⟨p, (hp false).symm, p.value_shortened.symm⟩

/-- A text that is canonical for a number. -/
structure CanonicalText (s : String) (q : ℚ) : Prop where
  /-- It denotes the number. -/
  denotes : Denotes s.toList q
  /-- With a point it does not end in a zero. -/
  lastDigit : '.' ∈ s.toList → s.toList.getLast? ≠ some '0'
  /-- It does not end in a point. -/
  lastPoint : s.toList.getLast? ≠ some '.'
  /-- It is not a negative zero. -/
  sign : s.toList.head? = some '-' → q ≠ 0
  /-- It is the text of every decimal for the number from which nothing can be left out. -/
  unique : ∀ p : Positional, p.Canonical → p.value = q → p.text = s.toList

theorem canonicalText_of_canonical {p : Positional} (h : p.Canonical) :
    CanonicalText (String.ofList p.text) p.value := by
  constructor
  all_goals rw [String.toList_ofList]
  · exact ⟨p, rfl, rfl⟩
  · exact fun hpoint hlast => (h.last_text hpoint '0' hlast).1 rfl
  · exact fun hlast => (h.last_text (List.mem_of_getLast? hlast) '.' hlast).2 rfl
  · intro hhead
    refine h.sign ?_
    by_contra hpositive
    rw [Positional.text, if_neg hpositive] at hhead
    exact p.head?_wholeText_append false (pointed p.fraction) hhead
  · exact fun p' h' hvalue => congrArg Positional.text (h'.eq h hvalue)

/-- A number that is written canonically with a number of places. -/
def WrittenCanonically (x : Float) (places : Int) : Prop :=
  ∃ s q, rounded x places = .ok s ∧ RoundedTo (exact x) places.toNat q ∧
    Denotes (fixedText x places.toNat false) q ∧ CanonicalText s q ∧
    ∀ y : Float, Counted y places.toNat →
      (rounded y places = .ok s ↔ RoundedTo (exact y) places.toNat q)

theorem writtenCanonically_of_counted {x : Float} {places : Int} (hplaces : Writable places)
    (hcounted : Counted x places.toNat) : WrittenCanonically x places := by
  obtain ⟨p, hcanonical, htidy, hshows, hdenotes⟩ := exists_canonical hcounted.isFinite places.toNat
  have hwritten : rounded x places = .ok (String.ofList p.text) := by
    rw [rounded_of_writable x hplaces, htidy]
    rfl
  refine ⟨_, p.value, hwritten, hshows.counted hcounted, hdenotes,
    canonicalText_of_canonical hcanonical, ?_⟩
  intro y hy
  obtain ⟨p', hcanonical', htidy', hshows', -⟩ := exists_canonical hy.isFinite places.toNat
  have hwritten' : rounded y places = .ok (String.ofList p'.text) := by
    rw [rounded_of_writable y hplaces, htidy']
    rfl
  have hround' := hshows'.counted hy
  rw [hwritten', Except.ok.injEq, String.ofList_inj]
  constructor
  · intro hsame
    have hvalue : p'.value = p.value := Denotes.unique ⟨p', hsame, rfl⟩ ⟨p, rfl, rfl⟩
    rwa [← hvalue]
  · intro hsame
    rw [hcanonical'.eq hcanonical (hround'.unique hsame)]

/-- A number with too many digits is shown as zero, and is not rounded to it. -/
theorem counted_of_writtenCanonically {x : Float} (hx : x.isFinite = true) {places : Int}
    (h : WrittenCanonically x places) : Writable places ∧ Counted x places.toNat := by
  obtain ⟨s, q, hwritten, hround, hdenotes, -⟩ := h
  have hplaces := (exists_rounded_iff _).1 ⟨s, hwritten⟩
  refine ⟨hplaces, ?_⟩
  by_contra hnot
  obtain ⟨p, -, -, hshows, hdenotes'⟩ := exists_canonical hx places.toNat
  obtain rfl := hdenotes.unique (hshows.uncounted hnot ▸ hdenotes')
  exact not_roundedTo_zero (one_le_of_not_counted hx hplaces.toNat_le hnot) hround

/-- The figure of a finite number denotes the same decimal as its fixed-point text and is the
canonical text of it, so it is the figure of those numbers that are rounded to the same decimal.
This holds exactly if the number of places can be written and the digits of the number can be
counted, as with `exactPlaces` places they always can. -/
theorem rounded_writtenCanonically_iff {x : Float} (hx : x.isFinite = true) (places : Int) :
    WrittenCanonically x places ↔ Writable places ∧ Counted x places.toNat :=
  ⟨counted_of_writtenCanonically hx, fun h => writtenCanonically_of_counted h.1 h.2⟩

/-- A number that is rounded to zero from below. -/
theorem rounded_writtenCanonically_negative_zero :
    (-0.004 : Float).isFinite = true ∧ WrittenCanonically (-0.004) 2 := by
  have hx : (-0.004 : Float).isFinite = true := by decide
  exact ⟨hx, (rounded_writtenCanonically_iff hx 2).2 ⟨by decide, counted_of_le hx (by decide)⟩⟩

/-- Above the most places that a figure may have nothing is written. -/
theorem not_writtenCanonically : ¬ ∀ (x : Float) (places : Int), x.isFinite = true → 0 ≤ places →
    WrittenCanonically x places := by
  intro h
  obtain ⟨s, q, hrounded, -⟩ := h 1.5 2147483648 (by decide) (by decide)
  have hwritable := (exists_rounded_iff 1.5).1 ⟨s, hrounded⟩
  revert hwritable
  decide

end Figure

end Scorecard
