import Scorecard.Proofs.Decimal.Scientific
import Scorecard.Proofs.Figure.Canonical
import Scorecard.Proofs.Readings.Pairs

/-!
# Figures are read back

The figure of a number, put into a value cell, is read as the double nearest to the decimal that it
shows. The reader takes off what the writer adds, that is, the unit, the currency symbol and the
commas, and the zeros that the writer leaves out do not count. Figures that are not amounts of money
are rounded figures with commas and a unit.
-/

namespace Scorecard

open Text (isSpace decimalValue? trimmed trimWhile dropEndWhile)

namespace Decimal

/-! ## Positional texts as numbers -/

/-- What holds of the ten digits holds of every digit. -/
theorem forall_isDigit {P : Char → Prop} (h : ∀ n < 10, P (digitChar n)) {c : Char}
    (hc : c.isDigit = true) : P c := by
  have hbounds := isDigit_iff.1 hc
  rw [← digitChar_toNat hc]
  exact h _ (by omega)

/-- The characters of positional texts with commas. -/
def IsFigureChar (c : Char) : Prop :=
  c.isDigit = true ∨ c = '-' ∨ c = '.' ∨ c = ','

theorem IsFigureChar.forall {P : Char → Prop} (hdigits : ∀ n < 10, P (digitChar n))
    (hminus : P '-') (hpoint : P '.') (hcomma : P ',') {c : Char} (h : IsFigureChar c) : P c := by
  rcases h with hdigit | rfl | rfl | rfl
  · exact forall_isDigit hdigits hdigit
  · exact hminus
  · exact hpoint
  · exact hcomma

theorem IsFigureChar.isSpace {c : Char} (h : IsFigureChar c) : isSpace c = false :=
  h.forall (P := fun c => Text.isSpace c = false) (by decide) (by decide) (by decide) (by decide)

theorem IsFigureChar.asciiDigitForm {c : Char} (h : IsFigureChar c) : asciiDigitForm c = c :=
  h.forall (P := fun c => Decimal.asciiDigitForm c = c) (by decide) (by decide)
    (by decide) (by decide)

theorem IsFigureChar.ne_underscore {c : Char} (h : IsFigureChar c) : c ≠ '_' :=
  h.forall (P := fun c => c ≠ '_') (by decide) (by decide) (by decide) (by decide)

namespace Positional

theorem isFigureChar_of_mem (p : Positional) (commas : Bool) {c : Char}
    (hc : c ∈ p.spelled commas) :
    IsFigureChar c := by
  rcases List.mem_append.1 hc with hsign | hunsigned
  · split at hsign
    · exact .inr (.inl (List.mem_singleton.1 hsign))
    · exact absurd hsign List.not_mem_nil
  · rcases List.mem_append.1 hunsigned with hwhole | hfraction
    · exact (mem_wholeText hwhole).elim (fun h => .inr (.inr (.inr h))) .inl
    · by_cases hnil : p.fraction = []
      · rw [hnil] at hfraction
        exact absurd hfraction List.not_mem_nil
      · rw [pointed_of_ne_nil hnil] at hfraction
        rcases List.mem_cons.1 hfraction with hpoint | hdigit
        · exact .inr (.inr (.inl hpoint))
        · exact .inl (p.allDigits_fraction c hdigit)

end Positional

theorem trimWhile_of_forall {p : Char → Bool} {cs : List Char} (h : ∀ c ∈ cs, p c = false) :
    trimWhile p cs = cs := by
  have hfront : cs.dropWhile p = cs := by
    cases cs with
    | nil => rfl
    | cons c cs => exact List.dropWhile_cons_of_neg (by simp [h c List.mem_cons_self])
  rw [trimWhile, hfront]
  exact Figure.dropEndWhile_of_last h

theorem dropUnderscores?_of_forall {before : Char} {cs : List Char} (h : ∀ c ∈ cs, c ≠ '_') :
    dropUnderscores? before cs = some cs := by
  fun_induction dropUnderscores? before cs with
  | case1 => rfl
  | case2 | case3 | case4 => exact absurd rfl (h _ List.mem_cons_self)
  | case5 before c cs hc ih =>
    rw [ih (List.forall_mem_cons.1 h).2]
    rfl

/-- A word does not start with a digit. -/
theorem special?_of_isDigit {c : Char} {cs : List Char} (hc : c.isDigit = true) :
    special? (c :: cs) = none := by
  have hlower : c.toLower ≠ 'i' ∧ c.toLower ≠ 'n' :=
    forall_isDigit (P := fun c => c.toLower ≠ 'i' ∧ c.toLower ≠ 'n') (by decide) hc
  have hword (word : String)
      (hfirst : word.toList.head? = some 'i' ∨ word.toList.head? = some 'n') :
      String.ofList ((c :: cs).map Char.toLower) ≠ word := by
    rintro rfl
    rw [String.toList_ofList] at hfirst
    exact hfirst.elim (fun h => hlower.1 (Option.some.inj h)) fun h => hlower.2 (Option.some.inj h)
  have hinf := hword "inf" (.inl (by decide))
  have hinfinity := hword "infinity" (.inl (by decide))
  have hnan := hword "nan" (.inr (by decide))
  simp only [special?, hinf, hinfinity, hnan, decide_false, Bool.or_self, Bool.false_eq_true,
    if_false]

/-- A positional text is read as its numeral. -/
theorem double?_text (p : Positional) : double? p.text = some p.numeral.toFloat := by
  have hchar : ∀ c ∈ p.text, IsFigureChar c :=
    fun c hc => p.isFigureChar_of_mem false hc
  have htrim : trimWhile isNumberBlank p.text = p.text :=
    trimWhile_of_forall fun c hc => by rw [isNumberBlank, (hchar c hc).isSpace, Bool.false_and]
  have hascii : p.text.map asciiDigitForm = p.text := by
    rw [List.map_congr_left fun c hc => (hchar c hc).asciiDigitForm, List.map_id']
  have hplain : plainDouble? p.text = some p.numeral.toFloat := by
    obtain ⟨c, cs, hcons, hdigit⟩ := p.exists_digit_unsigned
    have hspecial : special? p.unsigned = none := by
      rw [hcons]
      exact special?_of_isDigit hdigit
    simp only [plainDouble?, p.takeSign_text, hspecial, p.numeral?_text, Option.map_some]
  rw [double?, htrim, hascii, dropUnderscores?_of_forall fun c hc => (hchar c hc).ne_underscore]
  exact hplain

/-- There is a digit in every positional text. -/
theorem Positional.exists_digit_spelled (p : Positional) (commas : Bool) :
    ∃ c ∈ p.spelled commas, c.isDigit = true := by
  obtain ⟨c, hc⟩ := List.exists_mem_of_ne_nil p.whole p.whole_ne_nil
  refine ⟨c, List.mem_append_right _ (List.mem_append_left _ ?_), p.allDigits_whole c hc⟩
  rw [← p.filter_wholeText commas] at hc
  exact (List.mem_filter.1 hc).1

end Decimal

/-! ## Figures in value cells -/

open Text (lower trim)
open Decimal

namespace Text

/-- Digits have no letter case. -/
theorem mem_lower_of_isDigit {s : String} {c : Char} (hc : c ∈ s.toList)
    (hdigit : c.isDigit = true) : c ∈ (lower s).toList := by
  have hform (before after : List Char) : c ∈ lowerForm before c after := by
    have hsigma : c ≠ 'Σ' := by
      rintro rfl
      cases hdigit
    have hbounds := isDigit_iff.1 hdigit
    have hsame : c.toLower = c :=
      forall_isDigit (P := fun c => c.toLower = c) (by decide) hdigit
    rw [lowerForm, if_neg hsigma, lowerChar_of_ascii (by omega), hsame]
    exact List.mem_singleton_self c
  have hafter (before cs : List Char) (hmem : c ∈ cs) : c ∈ lowerAfter before cs := by
    induction cs generalizing before with
    | nil => exact absurd hmem List.not_mem_nil
    | cons d cs ih =>
      rw [lowerAfter_cons]
      rcases List.mem_cons.1 hmem with rfl | hrest
      · exact List.mem_append_left _ (hform before cs)
      · exact List.mem_append_right _ (ih _ hrest)
  rw [lower, String.toList_ofList]
  exact hafter [] s.toList hc

end Text

/-- The words for no value have no digits. -/
theorem absentWords_of_isDigit {s : String} {c : Char} (hc : c ∈ s.toList)
    (hdigit : c.isDigit = true) : absentWords.contains (lower s) = false := by
  have hnone : (absentWords.all fun word => word.toList.all (!·.isDigit)) = true := by
    decide
  rw [List.contains_eq_mem, decide_eq_false_iff_not]
  intro hmem
  have hword := List.all_eq_true.1 (List.all_eq_true.1 hnone _ hmem) c
    (Text.mem_lower_of_isDigit hc hdigit)
  rw [hdigit] at hword
  cases hword

/-- A text without its currency and percent signs. -/
def withoutMarks (cs : List Char) : List Char :=
  cs.filter fun c => !(decide (c = '$') || decide (c = '%'))

theorem withoutMarks_append (a b : List Char) :
    withoutMarks (a ++ b) = withoutMarks a ++ withoutMarks b :=
  List.filter_append _ _

/-- Positional texts have no such signs. -/
theorem withoutMarks_spelled (p : Positional) (commas : Bool) :
    withoutMarks (p.spelled commas) = p.spelled commas := by
  refine List.filter_eq_self.2 fun c hc => ?_
  exact (p.isFigureChar_of_mem commas hc).forall
    (P := fun c => (!(decide (c = '$') || decide (c = '%'))) = true)
    (by decide) (by decide) (by decide) (by decide)

/-- A positional text in a value cell, with commas and with currency and percent signs, is the
number that it denotes. -/
theorem cellNumber_of_spelled {p : Positional} {commas : Bool} {s : String}
    (hs : withoutMarks s.toList = p.spelled commas)
    (hrange : |p.value| < overflowBound) : cellNumber s = some p.numeral.toFloat := by
  have htrim : trim s = s := by
    have htight : ∀ c ∈ s.toList, isSpace c = false := by
      intro c hc
      by_cases hsign : (c = '$' || c = '%') = true
      · rw [Bool.or_eq_true, decide_eq_true_eq, decide_eq_true_eq] at hsign
        rcases hsign with rfl | rfl <;> decide
      · have hkept : c ∈ p.spelled commas := by
          rw [← hs]
          refine List.mem_filter.2 ⟨hc, ?_⟩
          rw [Bool.not_eq_true']
          exact Bool.eq_false_iff.2 hsign
        exact (p.isFigureChar_of_mem commas hkept).isSpace
    rw [trim, trimmed, trimWhile_of_forall htight, String.ofList_toList]
  have hpresent : absentWords.contains (lower s) = false := by
    obtain ⟨c, hc, hdigit⟩ := p.exists_digit_spelled commas
    rw [← hs] at hc
    exact absentWords_of_isDigit (List.mem_filter.1 hc).1 hdigit
  have hwithout : Text.without (fun c => c = '$' || c = '%') s =
      String.ofList (p.spelled commas) :=
    congrArg String.ofList hs
  have hspaces : trimmed (p.spelled commas) = p.spelled commas :=
    trimWhile_of_forall fun c hc => (p.isFigureChar_of_mem commas hc).isSpace
  have hfinite := (Numeral.nearest_toFloat hrange).isFinite
  rw [cellNumber, htrim, hpresent, if_neg Bool.false_ne_true, hwithout, textNumber?,
    String.toList_ofList, hspaces, p.filter_spelled, double?_text]
  change finite? p.numeral.toFloat = _
  rw [finite?, if_pos hfinite]

namespace Readings

theorem get?_recordAll_singleton (id : String) (x : Option Float) :
    get? ⟨recordAll [(trim id, x)]⟩ id = some x := by
  simp [get?, find?, recordAll, record, Text.fold]

/-- A mapping with one cell is read as the number of the cell. -/
theorem get?_ofCells {id : String} (hid : trim id ≠ "") (s : String) :
    ∃ r, ofCells [(id, .text s)] = .ok r ∧ r.get? id = some (cellNumber s) := by
  have hfinite : (cleanText s).finiteNumber = cellNumber s :=
    Datum.finiteNumber_eq (number?_cleanText s)
  have hread : ofEntries [(id, cleanText s)] = .ok ⟨recordAll (named [(id, cleanText s)])⟩ := by
    refine ofEntries_of_numbers fun e he _ => ?_
    rw [List.mem_singleton.1 he, hfinite, number?_cleanText]
  rw [named_cons_of_ne _ _ hid, hfinite] at hread
  exact ⟨_, hread, get?_recordAll_singleton id _⟩

/-- A row with an id and a value is read as the number of the value. -/
theorem get?_ofRows {id : String} (hid : trim id ≠ "") (s : String) :
    ∃ r, ofRows [.record (pairRow id s)] = .ok r ∧ r.get? id = some (cellNumber s) := by
  have hone : ([(id, s)].map fun e => Text.fold e.1).Nodup := List.nodup_singleton _
  have hrow : ofRows [.record (pairRow id s)] = ofCells [(id, .text s)] := ofRows_pairRows hone
  rw [hrow]
  exact get?_ofCells hid s

end Readings

namespace Figure

/-! ## Figures are read back -/

/-- A text that, as the value of a KPI, is read as the double that `q` is rounded to; the sign of a
zero apart, there is one such double. -/
def ReadsAs (s : String) (q : ℚ) : Prop :=
  ∃ y : Float, Nearest q y ∧ (∀ z, Nearest q z → exact z = exact y) ∧ ∀ id, trim id ≠ "" →
    (∃ r, Readings.ofCells [(id, .text s)] = .ok r ∧ r.get? id = some (some y)) ∧
    (∃ r, Readings.ofRows [.record (Readings.pairRow id s)] = .ok r ∧ r.get? id = some (some y))

theorem readsAs_of_spelled {p : Positional} {commas : Bool} {s : String} {x : Float} {places : Nat}
    (hs : withoutMarks s.toList = p.spelled commas)
    (hround : RoundedTo (exact x) places p.value) : ReadsAs s p.value := by
  have hrange : |p.value| < overflowBound :=
    (hround.bounded (abs_exact_le x)).trans_lt largest_lt_overflowBound
  have hcell := cellNumber_of_spelled hs hrange
  have hnearest := Numeral.nearest_toFloat hrange
  refine ⟨p.numeral.toFloat, hnearest, fun z hz => hz.unique hnearest hrange,
    fun id hid => ⟨?_, ?_⟩⟩
  · rw [← hcell]
    exact Readings.get?_ofCells hid s
  · rw [← hcell]
    exact Readings.get?_ofRows hid s

/-- A decimal with another sign. -/
def withSign (p : Positional) (negative : Bool) : Positional :=
  { p with negative := negative }

theorem value_withSign {p : Positional} (h : p.negative = false) (negative : Bool) :
    (withSign p negative).value = (if negative then -1 else 1) * p.value := by
  rw [Positional.value_eq, Positional.value_eq p, h, if_neg Bool.false_ne_true, one_mul]
  rfl

theorem money_of_writable (symbol : String) (x : Float) {places : Int} (h : Writable places) :
    money symbol x places = .ok ((if x < 0.0 then "-" else "") ++ symbol ++
      String.ofList (fixedText x.abs places.toNat true)) := by
  rw [money, places?_of_writable h]
  rfl

/-- The decimal without a sign that the magnitude of a double shows. -/
theorem exists_magnitude {x : Float} (hx : x.isFinite = true) (places : Nat) :
    ∃ p : Positional, p.negative = false ∧ fixedText x.abs places true = p.spelled true ∧
      Shows x.abs places p.value := by
  obtain ⟨b, hb⟩ := exists_view hx
  refine ⟨(Fixed.shown b.abs places).positional, ?_, ?_, ?_⟩
  · change (Fixed.shown b.abs places).negative = false
    unfold Fixed.shown
    split <;> rfl
  · rw [fixedText, view_abs hb]
    exact Fixed.text_eq_spelled _ _
  · rw [Fixed.value_positional]
    exact shows_shown (view_abs hb) places

/-- Without the currency symbol a sign stands before a magnitude, or nothing. -/
theorem withoutMarks_money {p : Positional} (h : p.negative = false) (negative : Bool) :
    withoutMarks ((if negative then "-" else "") ++ "$" ++ String.ofList (p.spelled true)).toList =
      (withSign p negative).spelled true := by
  have hspelled := withoutMarks_spelled p true
  have hunsigned : p.spelled true = p.wholeText true ++ pointed p.fraction := by
    rw [Positional.spelled, h]
    rfl
  rw [hunsigned] at hspelled ⊢
  cases negative <;>
    simp only [String.toList_append, String.toList_ofList, withoutMarks_append, hspelled] <;> rfl

/-- An amount of money is its sign, the currency symbol and the text of its magnitude. -/
theorem exists_money_magnitude (symbol : String) {x : Float} (hx : x.isFinite = true) {places : Int}
    (h : Writable places) :
    ∃ p : Positional, p.negative = false ∧
      money symbol x places = .ok ((if x < 0.0 then "-" else "") ++ symbol ++
        String.ofList (p.spelled true)) ∧
      (Counted x places.toNat →
        RoundedTo (exact x) places.toNat (withSign p (decide (x < 0.0))).value) := by
  obtain ⟨p, hpositive, hwritten, hshows⟩ := exists_magnitude hx places.toNat
  refine ⟨p, hpositive, ?_, fun hcounted => ?_⟩
  · rw [money_of_writable symbol x h, hwritten]
  · have hround := hshows.counted hcounted.abs
    rw [exact_abs hx] at hround
    rw [value_withSign hpositive]
    by_cases hlt : x < 0.0
    · have hsign := (lt_zero_iff_exact hx).1 hlt
      rw [abs_of_neg hsign] at hround
      have hneg := hround.neg
      rw [neg_neg] at hneg
      rwa [decide_eq_true hlt, if_pos rfl, neg_one_mul]
    · have hsign := not_lt.1 (mt (lt_zero_iff_exact hx).2 hlt)
      rw [abs_of_nonneg hsign] at hround
      rwa [decide_eq_false hlt, if_neg Bool.false_ne_true, one_mul]

/-- An amount of money is the text of the decimal, with commas and with the currency symbol after
the sign. -/
theorem exists_money {x : Float} (hx : x.isFinite = true) {places : Int} (h : Writable places) :
    ∃ (p : Positional) (s : String), money "$" x places = .ok s ∧
      withoutMarks s.toList = p.spelled true ∧
      (Counted x places.toNat → RoundedTo (exact x) places.toNat p.value) := by
  obtain ⟨p, hpositive, hwritten, hround⟩ := exists_money_magnitude "$" hx h
  refine ⟨withSign p (decide (x < 0.0)), _, hwritten, ?_, hround⟩
  rw [← withoutMarks_money hpositive]
  by_cases hlt : x < 0.0
  · rw [if_pos hlt, decide_eq_true hlt, if_pos rfl]
  · rw [if_neg hlt, decide_eq_false hlt, if_neg Bool.false_ne_true]

/-- A figure that is not an amount of money is the grouped figure with its unit. -/
theorem format_of_ne_currency (style : Style) {kpi : Kpi} (h : kpi.format ≠ .currency) (x : Float) :
    format style kpi x = (grouped x (style.placesOf kpi)).map (· ++ unit kpi.format) := by
  unfold format
  cases hformat : kpi.format with
  | currency => exact absurd hformat h
  | percentage | number | ratio | days => rfl

/-- A figure whose value cell is read as the number that the figure shows, if its digits can be
counted, and which is the rounded figure with commas and a unit, if it is not an amount of money. -/
def WrittenReadably (style : Style) (kpi : Kpi) (x : Float) : Prop :=
  ∃ s, format style kpi x = .ok s ∧
    (kpi.format = .percentage ∨ kpi.format = .number ∨
        kpi.format = .currency ∧ style.currencySymbol = "$" →
      Counted x (style.placesOf kpi).toNat →
      ∃ q, RoundedTo (exact x) (style.placesOf kpi).toNat q ∧
        Denotes (fixedText x (style.placesOf kpi).toNat false) q ∧ ReadsAs s q) ∧
    (kpi.format ≠ .currency →
      ∃ t, s = t ++ unit kpi.format ∧
        rounded x (style.placesOf kpi) = .ok (Text.without (· = ',') t))

theorem writtenReadably_of_ne_currency {style : Style} {kpi : Kpi} {x : Float}
    (hx : x.isFinite = true) (hplaces : Writable (style.placesOf kpi))
    (hcurrency : kpi.format ≠ .currency) : WrittenReadably style kpi x := by
  obtain ⟨p, -, htidy, hshows, hdenotes⟩ := exists_canonical hx (style.placesOf kpi).toNat
  have hwritten : format style kpi x = .ok (String.ofList (p.spelled true) ++ unit kpi.format) := by
    rw [format_of_ne_currency style hcurrency, grouped_of_writable x hplaces, htidy]
    rfl
  refine ⟨_, hwritten, fun hformat hcounted => ?_, fun _ => ⟨_, rfl, ?_⟩⟩
  · have hround := hshows.counted hcounted
    have hunit : withoutMarks (unit kpi.format).toList = [] := by
      rcases hformat with h | h | h
      · rw [h]
        rfl
      · rw [h]
        rfl
      · exact absurd h.1 hcurrency
    have hspelled : withoutMarks
        (String.ofList (p.spelled true) ++ unit kpi.format).toList = p.spelled true := by
      rw [String.toList_append, String.toList_ofList, withoutMarks_append, withoutMarks_spelled,
        hunit, List.append_nil]
    exact ⟨p.value, hround, hdenotes, readsAs_of_spelled hspelled hround⟩
  · rw [rounded_of_writable x hplaces, htidy, Text.without, String.toList_ofList]
    exact congrArg Except.ok (congrArg String.ofList (p.filter_spelled true).symm)

theorem writtenReadably_of_currency {style : Style} {kpi : Kpi} {x : Float}
    (hx : x.isFinite = true) (hplaces : Writable (style.placesOf kpi))
    (hcurrency : kpi.format = .currency) : WrittenReadably style kpi x := by
  have hmoney : format style kpi x = money style.currencySymbol x (style.placesOf kpi) := by
    unfold format
    rw [hcurrency]
  by_cases hsymbol : style.currencySymbol = "$"
  · obtain ⟨p, -, -, hshows, hdenotes⟩ := exists_canonical hx (style.placesOf kpi).toNat
    obtain ⟨p', s, hs, hspelled, hrounded⟩ := exists_money hx hplaces
    rw [hsymbol, hs] at hmoney
    refine ⟨s, hmoney, fun _ hcounted => ?_, fun hne => absurd hcurrency hne⟩
    have hround := hrounded hcounted
    refine ⟨p'.value, hround, ?_, readsAs_of_spelled hspelled hround⟩
    rwa [hround.unique (hshows.counted hcounted)]
  · obtain ⟨s, hs⟩ := (exists_format_iff style kpi x).2 hplaces
    refine ⟨s, hs, fun hformat => ?_, fun hne => absurd hcurrency hne⟩
    rw [hcurrency] at hformat
    rcases hformat with h | h | h
    · cases h
    · cases h
    · exact absurd h.2 hsymbol

/-- The figure of a finite number in a value cell is read as the double nearest to the decimal that
its fixed-point text denotes, for percentages, numbers and amounts of dollars whose digits can be
counted, as with `exactPlaces` places they always can. Without the unit and the commas it is the
rounded figure, unless it is an amount of money. -/
theorem format_writtenReadably (style : Style) (kpi : Kpi) {x : Float} (hx : x.isFinite = true)
    (hplaces : Writable (style.placesOf kpi)) : WrittenReadably style kpi x := by
  by_cases hcurrency : kpi.format = .currency
  · exact writtenReadably_of_currency hx hplaces hcurrency
  · exact writtenReadably_of_ne_currency hx hplaces hcurrency

/-- A negative amount of dollars with groups of digits. -/
theorem format_writtenReadably_dollars :
    let kpi : Kpi := { id := "profit", format := .currency, places := some 2 }
    (-1234567.125 : Float).isFinite = true ∧ Writable (Style.placesOf {} kpi) ∧
      WrittenReadably {} kpi (-1234567.125) :=
  ⟨by decide, by decide,
    format_writtenReadably _ _ (by decide) (by decide)⟩

/-- Above the most places that a figure may have nothing is written that could be read. -/
theorem not_writtenReadably : ¬ ∀ (style : Style) (kpi : Kpi) (x : Float), x.isFinite = true →
    0 ≤ style.placesOf kpi → WrittenReadably style kpi x := by
  intro h
  obtain ⟨s, hs, -⟩ := h {} { id := "margin", format := .percentage, places := some 2147483648 } 1.5
    (by decide) (by decide)
  have hwritable := (exists_format_iff _ _ _).1 ⟨s, hs⟩
  revert hwritable
  decide

end Figure

end Scorecard
