import Scorecard.Proofs.Figure.ReadBack

/-!
# The sign of a figure

A figure in any format but money is signed after its number has been rounded, so it shows a minus
sign exactly if what it shows is below zero. An amount of money takes its sign from the number as it
was before. So a negative amount that is rounded to zero has a sign, and no other figure of a zero.
Where a number has more digits than can be counted, zero is shown in its place, and it is the other
formats that lose its sign.
-/

namespace Scorecard

open Decimal

/-- Besides the sign nothing in a positional text is a minus sign. -/
theorem Decimal.Positional.minus_mem_spelled_iff (p : Positional) (commas : Bool) :
    '-' ∈ p.spelled commas ↔ p.negative = true := by
  have hunsigned : '-' ∉ p.wholeText commas ++ pointed p.fraction := by
    intro hmem
    rcases List.mem_append.1 hmem with hwhole | hfraction
    · rcases mem_wholeText hwhole with hcomma | hdigit
      · revert hcomma
        decide
      · cases hdigit
    · by_cases hnil : p.fraction = []
      · rw [hnil] at hfraction
        exact List.not_mem_nil hfraction
      · rw [pointed_of_ne_nil hnil, List.mem_cons] at hfraction
        rcases hfraction with hpoint | hdigit
        · revert hpoint
          decide
        · exact p.allDigits_fraction.notMem rfl hdigit
  rw [spelled, List.mem_append, or_iff_left hunsigned]
  cases p.negative <;> simp

/-- A number is rounded to one decimal, so any of its properties can be read off that. -/
theorem Decimal.RoundedTo.exists_iff {q r : ℚ} {places : Nat} (h : RoundedTo q places r)
    (P : ℚ → Prop) : (∃ r', RoundedTo q places r' ∧ P r') ↔ P r := by
  constructor
  · rintro ⟨r', hround, hr'⟩
    rwa [h.unique hround]
  · intro hr
    exact ⟨r, h, hr⟩

namespace Figure

/-- A figure that shows a minus sign exactly if its number, rounded to the places of the KPI, is
below zero. -/
def SignedAsRounded (style : Style) (kpi : Kpi) (x : Float) : Prop :=
  ∃ s, format style kpi x = .ok s ∧
    ('-' ∈ s.toList ↔ ∃ q, RoundedTo (exact x) (style.placesOf kpi).toNat q ∧ q < 0)

theorem minus_notMem_unit (format : KpiFormat) : '-' ∉ (unit format).toList := by
  cases format <;> decide

/-- What a number is rounded to is below zero exactly if the number is, and it is not rounded to
zero. -/
theorem rounded_neg_iff {x : Float} (hx : x.isFinite = true) {places : Nat} {r : ℚ}
    (h : RoundedTo (exact x) places r) :
    r < 0 ↔ x < 0.0 ∧ ¬ RoundedTo (exact x) places 0 := by
  have hzero : RoundedTo (exact x) places 0 ↔ r = 0 :=
    ⟨fun h' => h.unique h', fun hr => hr ▸ h⟩
  rw [lt_zero_iff_exact hx, hzero]
  constructor
  · intro hr
    refine ⟨?_, hr.ne⟩
    by_contra hnot
    exact absurd (h.nonneg (not_lt.1 hnot)) hr.not_ge
  · rintro ⟨hneg, hne⟩
    have hopposite := h.neg.nonneg (neg_nonneg.2 hneg.le)
    exact lt_of_le_of_ne (neg_nonneg.1 hopposite) hne

/-- A figure that is not an amount of money has the sign of what it shows. It shows zero if there
are too many digits. -/
theorem signedAsRounded_ne_currency_iff {style : Style} {kpi : Kpi} {x : Float}
    (hx : x.isFinite = true) (hplaces : Writable (style.placesOf kpi))
    (hcurrency : kpi.format ≠ .currency) :
    SignedAsRounded style kpi x ↔ ¬ (x < 0.0 ∧ ¬ Counted x (style.placesOf kpi).toNat) := by
  obtain ⟨p, hcanonical, htidy, hshows, -⟩ := exists_canonical hx (style.placesOf kpi).toNat
  obtain ⟨r, hround⟩ := exists_roundedTo hx (style.placesOf kpi).toNat
  have hwritten : format style kpi x = .ok (String.ofList (p.spelled true) ++ unit kpi.format) := by
    rw [format_of_ne_currency style hcurrency, grouped_of_writable x hplaces, htidy]
    rfl
  have hminus : '-' ∈ (String.ofList (p.spelled true) ++ unit kpi.format).toList ↔
      p.value < 0 := by
    rw [← hcanonical.negative_iff, String.toList_append, String.toList_ofList, List.mem_append,
      or_iff_left (minus_notMem_unit kpi.format), p.minus_mem_spelled_iff]
  have hsigned : SignedAsRounded style kpi x ↔ (p.value < 0 ↔ r < 0) := by
    rw [← hround.exists_iff (· < 0), ← hminus, SignedAsRounded, hwritten]
    simp only [Except.ok.injEq, exists_eq_left']
  rw [hsigned]
  by_cases hcounted : Counted x (style.placesOf kpi).toNat
  · rw [hround.unique (hshows.counted hcounted)]
    simp [hcounted]
  · have hlarge : ¬ RoundedTo (exact x) (style.placesOf kpi).toNat 0 :=
      not_roundedTo_zero (one_le_of_not_counted hx hplaces.toNat_le hcounted)
    rw [hshows.uncounted hcounted, rounded_neg_iff hx hround]
    simp [hcounted, hlarge]

/-- An amount of money has the sign of the number before it is rounded. -/
theorem minus_mem_money_iff {symbol : String} (hsymbol : '-' ∉ symbol.toList) {p : Positional}
    (hpositive : p.negative = false) (x : Float) :
    '-' ∈ ((if x < 0.0 then "-" else "") ++ symbol ++ String.ofList (p.spelled true)).toList ↔
      x < 0.0 := by
  have hunsigned : '-' ∉ p.spelled true := by
    rw [p.minus_mem_spelled_iff, hpositive]
    exact Bool.false_ne_true
  rw [String.toList_append, String.toList_append, String.toList_ofList, List.mem_append,
    or_iff_left hunsigned, List.mem_append, or_iff_left hsymbol]
  by_cases hlt : x < 0.0 <;> simp [hlt]

theorem signedAsRounded_currency_iff {style : Style} {kpi : Kpi} {x : Float}
    (hx : x.isFinite = true) (hsymbol : '-' ∉ style.currencySymbol.toList)
    (hplaces : Writable (style.placesOf kpi)) (hcurrency : kpi.format = .currency) :
    SignedAsRounded style kpi x ↔
      ¬ (x < 0.0 ∧ RoundedTo (exact x) (style.placesOf kpi).toNat 0) := by
  obtain ⟨p, hpositive, hmoney, -⟩ := exists_money_magnitude style.currencySymbol hx hplaces
  obtain ⟨r, hround⟩ := exists_roundedTo hx (style.placesOf kpi).toNat
  have hformat : format style kpi x = money style.currencySymbol x (style.placesOf kpi) := by
    unfold format
    rw [hcurrency]
  have hsigned : SignedAsRounded style kpi x ↔ (x < 0.0 ↔ r < 0) := by
    rw [← hround.exists_iff (· < 0), ← minus_mem_money_iff hsymbol hpositive, SignedAsRounded,
      hformat, hmoney]
    simp only [Except.ok.injEq, exists_eq_left']
  rw [hsigned, rounded_neg_iff hx hround, iff_self_and, not_and]

/-- The figure of a finite number shows a minus sign exactly if the number is below zero when it is
rounded. Apart from places that cannot be written there are two exceptions: a negative amount of
money that is rounded to zero has a sign, and any other negative figure with more digits than can
be counted has none. -/
theorem format_signedAsRounded_iff (style : Style) (kpi : Kpi) {x : Float} (hx : x.isFinite = true)
    (hsymbol : '-' ∉ style.currencySymbol.toList) :
    SignedAsRounded style kpi x ↔ Writable (style.placesOf kpi) ∧
      ¬ (kpi.format = .currency ∧ x < 0.0 ∧
        RoundedTo (exact x) (style.placesOf kpi).toNat 0) ∧
      ¬ (kpi.format ≠ .currency ∧ x < 0.0 ∧ ¬ Counted x (style.placesOf kpi).toNat) := by
  by_cases hplaces : Writable (style.placesOf kpi)
  · by_cases hcurrency : kpi.format = .currency
    · rw [signedAsRounded_currency_iff hx hsymbol hplaces hcurrency]
      simp [hplaces, hcurrency]
    · rw [signedAsRounded_ne_currency_iff hx hplaces hcurrency]
      simp [hplaces, hcurrency]
  · refine iff_of_false ?_ fun h => hplaces h.1
    rintro ⟨s, hs, -⟩
    exact hplaces ((exists_format_iff style kpi x).1 ⟨s, hs⟩)

/-- A small negative percentage that is rounded to zero. -/
theorem format_signedAsRounded_small :
    (-0.04 : Float).isFinite = true ∧ '-' ∉ (Style.currencySymbol {}).toList ∧
      SignedAsRounded {} { id := "growth", format := .percentage } (-0.04) := by
  have hx : (-0.04 : Float).isFinite = true := by decide
  refine ⟨hx, by decide, (format_signedAsRounded_iff _ _ hx (by decide)).2 ⟨by decide, ?_, ?_⟩⟩
  · rintro ⟨hcurrency, -⟩
    cases hcurrency
  · rintro ⟨-, -, hnot⟩
    exact hnot (counted_of_le hx (by decide))

/-- A quarter of a dollar that is lost is written as `-$0`. -/
theorem not_signedAsRounded : ¬ ∀ (style : Style) (kpi : Kpi) (x : Float), x.isFinite = true →
    '-' ∉ style.currencySymbol.toList → 0 ≤ style.placesOf kpi → SignedAsRounded style kpi x := by
  intro h
  obtain ⟨s, hs, hsign⟩ := h {} { id := "profit", format := .currency } (-0.25)
    (by decide) (by decide) (by decide)
  have hwritten : format {} { id := "profit", format := .currency } (-0.25) = .ok "-$0" := by
    decide +kernel
  have hround : RoundedTo (exact (-0.25)) 0 0 := by
    have hview : view (-0.25) = .finite ⟨true, 2 ^ 52, -54⟩ := by decide
    have hexact : exact (-0.25) = -1 / 4 := by
      rw [exact_of_view hview, Binary.value]
      norm_num
    refine ⟨0, by norm_num, ?_, ?_⟩ <;> rw [hexact] <;> norm_num
  obtain rfl := Except.ok.inj (hwritten.symm.trans hs)
  exact lt_irrefl 0 ((hround.exists_iff (· < 0)).1 (hsign.1 (by decide)))

end Figure

end Scorecard
