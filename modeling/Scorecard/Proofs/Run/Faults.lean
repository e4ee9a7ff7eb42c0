import Scorecard.Proofs.Benchmark.Divisor
import Scorecard.Proofs.Insight.Firing
import Scorecard.Proofs.Insight.Spelling
import Scorecard.Proofs.Insight.Writing
import Scorecard.Proofs.Validation.Run
import Scorecard.Report.Run
import Scorecard.Schema.Settings
import Scorecard.Sheet.Definitions

/-!
# What stops an analysis

Numbers of places come from the sheet of KPIs and from the settings, and neither checks them. One
that no figure may have stops the writing of issues and findings, so an analysis that comes to it
gives no report. The only other thing that stops an analysis is a division by zero.
-/

namespace Scorecard

open Figure (Writable)
open Text (lower)

/-! ## Issues -/

namespace ValidationRule

theorem exists_figure_iff {x : Option Float} {places : Int} :
    (∃ d, figure x places = .ok d) ↔ x = none ∨ Writable places := by
  cases x with
  | none => simp [figure]
  | some x => simp [figure, exists_map_eq_ok_iff, Figure.exists_rounded_iff]

/-- Of the figures in an issue only the one found and the one wanted have places that are set. -/
theorem exists_issue_iff {rule : ValidationRule} {outcome : Outcome} {ctx : Context} :
    (∃ issue, rule.issue outcome ctx = .ok issue) ↔
      (outcome.actual = none ∧ outcome.expected = none) ∨
        Writable ctx.settings.style.valuePlaces := by
  rw [and_or_right]
  constructor
  · rintro ⟨issue, hissue⟩
    obtain ⟨fields, hfields, -⟩ := bind_eq_ok_iff.1 hissue
    obtain ⟨actual, hactual, hfields⟩ := bind_eq_ok_iff.1 hfields
    obtain ⟨expected, hexpected, -⟩ := bind_eq_ok_iff.1 hfields
    exact ⟨exists_figure_iff.1 ⟨actual, hactual⟩, exists_figure_iff.1 ⟨expected, hexpected⟩⟩
  · rintro ⟨hactual, hexpected⟩
    obtain ⟨actual, hactual⟩ := exists_figure_iff.2 hactual
    obtain ⟨expected, hexpected⟩ := exists_figure_iff.2 hexpected
    obtain ⟨variance, hvariance⟩ : ∃ d, figure outcome.variance 4 = .ok d :=
      exists_figure_iff.2 (.inr (by decide))
    obtain ⟨percent, hpercent⟩ : ∃ d, figure (outcome.variance.map (· * 100.0)) 1 = .ok d :=
      exists_figure_iff.2 (.inr (by decide))
    obtain ⟨tolerance, htolerance⟩ : ∃ s, Figure.rounded rule.tolerance 4 = .ok s :=
      (Figure.exists_rounded_iff _).2 (by decide)
    have hfields : ∃ fields, rule.messageFields outcome ctx = .ok fields := by
      rw [messageFields, hactual, hexpected, hvariance, hpercent, htolerance]
      exact ⟨_, rfl⟩
    obtain ⟨fields, hfields⟩ := hfields
    exact exists_bind_eq_ok_iff.2 ⟨fields, hfields, _, rfl⟩

end ValidationRule

/-! ## Whole analyses -/

/-- What stops an analysis. -/
inductive Context.Stops (ctx : Context) (config : Configuration) (ids : Option (List String)) : Prop
  /-- A rule fails, and a figure in the issue has a number of places that cannot be written. -/
  | issue {rule : ValidationRule} (hrule : rule ∈ selectRules config.validationRules ids)
    (hactive : rule.active = true) {outcome : Outcome}
    (houtcome : rule.execute ctx .standard = .ok outcome) (hfailure : outcome.isFailure = true)
    (hfigure : outcome.actual ≠ none ∨ outcome.expected ≠ none)
    (hplaces : ¬ Writable ctx.settings.style.valuePlaces) : Stops ctx config ids
  /-- Rating comes to a division by zero. -/
  | division (hzero : ctx.DividesByZero config.benchmarks) : Stops ctx config ids
  /-- A rule fires that shows a rated KPI whose figures cannot be written. -/
  | finding {run : RatingRun}
    (hrated : (Selection.build config.benchmarks ctx.client ctx.settings).rateAll ctx = .ok run)
    {rule : InsightRule} (hrule : rule ∈ config.insightRules) {clauses : List Clause}
    (hclauses : rule.clauses = .ok clauses) (hmet : ∀ c ∈ clauses, c.MetBy run.ratings)
    {id : String} (hid : id ∈ rule.shownIds clauses)
    (hthere : (run.lookup.result? (lower id)).isSome = true) (hplaces : ¬ ctx.Writes id) :
    Stops ctx config ids

theorem Context.exists_report_iff {ctx : Context} {config : Configuration}
    {ids : Option (List String)} {order : Option StatusOrder} :
    (∃ report, ctx.analyse config ids order = .ok report) ↔ ¬ ctx.Stops config ids := by
  constructor
  · rintro ⟨report, h⟩ hstops
    obtain ⟨validation, hvalidation, h⟩ := bind_eq_ok_iff.1 h
    obtain ⟨rating, hrating, h⟩ := bind_eq_ok_iff.1 h
    obtain ⟨insight, hinsight, -⟩ := bind_eq_ok_iff.1 h
    cases hstops with
    | issue hrule hactive houtcome hfailure hfigure hplaces =>
      have hrenders := exists_validate_iff.1 ⟨validation, hvalidation⟩ _ hrule hactive
      rcases ValidationRule.exists_issue_iff.1 (hrenders _ houtcome hfailure) with hnone | hwrites
      · exact hfigure.elim (· hnone.1) (· hnone.2)
      · exact hplaces hwrites
    | division hzero =>
      exact Selection.exists_rateAll_build_iff.1 ⟨rating, hrating⟩ hzero
    | @finding run hrated rule hrule clauses hclauses hmet id hid hthere hplaces =>
      obtain rfl := Except.ok.inj (hrating.symm.trans hrated)
      have hrenders := exists_findInsights_iff.1 ⟨insight, hinsight⟩ rule hrule
      have hwrites := InsightRule.exists_render_iff.1 (hrenders clauses hclauses hmet)
      exact hplaces (hwrites id hid hthere)
  · intro hnot
    have hvalidate : ∃ validation,
        validate config.validationRules ctx ids .standard = .ok validation := by
      refine exists_validate_iff.2 fun rule hrule hactive outcome houtcome hfailure => ?_
      rw [ValidationRule.exists_issue_iff]
      by_contra hnone
      rw [not_or, not_and_or] at hnone
      exact hnot (.issue hrule hactive houtcome hfailure hnone.1 hnone.2)
    have hrate : ¬ ctx.DividesByZero config.benchmarks := fun hzero => hnot (.division hzero)
    obtain ⟨validation, hvalidation⟩ := hvalidate
    obtain ⟨rating, hrating⟩ := Selection.exists_rateAll_build_iff.2 hrate
    have hfind : ∃ insight, findInsights config.insightRules ctx
        (.of rating.ratings rating.results) order = .ok insight := by
      refine exists_findInsights_iff.2 fun rule hrule clauses hclauses hmet => ?_
      refine InsightRule.exists_render_iff.2 fun id hid hthere => ?_
      by_contra hplaces
      exact hnot (.finding hrating hrule hclauses hmet hid hthere hplaces)
    obtain ⟨insight, hinsight⟩ := hfind
    refine exists_bind_eq_ok_iff.2 ⟨validation, hvalidation, ?_⟩
    refine exists_bind_eq_ok_iff.2 ⟨rating, hrating, ?_⟩
    exact exists_bind_eq_ok_iff.2 ⟨insight, hinsight, _, rfl⟩

/-! ## Where all places can be written -/

/-- Whether no number of places stops anything: neither one of the settings nor one that a KPI has
of its own. -/
structure Figure.Style.WritesAll (style : Figure.Style) (kpis : List Kpi) : Prop where
  /-- The places of figures can be written. -/
  value : Writable style.valuePlaces
  /-- The places of percentages can be written. -/
  percent : Writable style.percentPlaces
  /-- The places that a KPI has of its own can be written. -/
  own : ∀ kpi ∈ kpis, ∀ places, kpi.places = some places → Writable places

theorem Figure.Style.WritesAll.placesOf {style : Figure.Style} {kpis : List Kpi}
    (h : style.WritesAll kpis) {kpi : Kpi} (hkpi : kpi ∈ kpis ∨ kpi.places = none) :
    Writable (style.placesOf kpi) := by
  unfold Figure.Style.placesOf
  cases hplaces : kpi.places with
  | some places =>
    rw [hplaces] at hkpi
    exact h.own kpi (hkpi.resolve_right (Option.some_ne_none places)) places hplaces
  | none =>
    cases kpi.format with
    | percentage => exact h.percent
    | number => exact h.value
    | currency | days | ratio => simp [Writable, Figure.mostPlaces]

/-- A KPI is one of those that are defined, or nothing is known of it. -/
theorem Context.kpi_mem {ctx : Context} {kpis : List Kpi} (hkpis : ctx.kpis = indexKpis kpis)
    (id : String) : ctx.kpi id ∈ kpis ∨ (ctx.kpi id).places = none := by
  have hkeys : ∀ key ∈ ctx.kpis.map Prod.fst, lower key = key := by
    rw [hkpis]
    exact indexKpis_keys kpis
  unfold kpi
  rw [lookup_orElse_lower hkeys]
  cases hfound : ctx.kpis.lookup (lower id) with
  | none => exact .inr rfl
  | some kpi =>
    obtain ⟨front, back, hsplit, -⟩ := List.lookup_eq_some_iff.1 hfound
    have hmem : (lower id, kpi) ∈ indexKpis kpis := by
      rw [← hkpis, hsplit]
      simp
    obtain ⟨k, hk, hentry⟩ := mem_indexKpis hmem
    obtain rfl : kpi = k := congrArg Prod.snd hentry
    exact .inl hk

theorem Context.stops_iff_of_writesAll {ctx : Context} {kpis : List Kpi}
    (hkpis : ctx.kpis = indexKpis kpis) (hwrites : ctx.settings.style.WritesAll kpis)
    {config : Configuration} {ids : Option (List String)} :
    ctx.Stops config ids ↔ ctx.DividesByZero config.benchmarks := by
  constructor
  · intro hstops
    cases hstops with
    | issue _ _ _ _ _ hplaces => exact absurd hwrites.value hplaces
    | division hzero => exact hzero
    | @finding _ _ _ _ _ _ _ id _ _ hplaces =>
      exact absurd ⟨hwrites.value, hwrites.placesOf (ctx.kpi_mem hkpis id)⟩ hplaces
  · exact .division

/-- The fields of a rated KPI can be written exactly if the places of plain numbers and those of the
KPI can, and an issue exactly if the places of plain numbers can or it has no figures. An analysis
gives a report unless it comes to an issue or a rated KPI that cannot be written, or divides by
zero. If all places can be written, nothing else than the division stops it. -/
theorem report_iff_places_writable (ctx : Context) (result : BenchmarkResult) (kpi : Kpi)
    (prefixId : String) (rule : ValidationRule) (outcome : Outcome) (config : Configuration)
    (ids : Option (List String)) (order : Option StatusOrder) :
    ((∃ fs, result.fields kpi ctx.settings.style prefixId = .ok fs) ↔
      Writable ctx.settings.style.valuePlaces ∧ Writable (ctx.settings.style.placesOf kpi)) ∧
    ((∃ issue, rule.issue outcome ctx = .ok issue) ↔
      (outcome.actual = none ∧ outcome.expected = none) ∨
        Writable ctx.settings.style.valuePlaces) ∧
    ((∃ report, ctx.analyse config ids order = .ok report) ↔ ¬ ctx.Stops config ids) ∧
    ∀ kpis, ctx.kpis = Context.indexKpis kpis → ctx.settings.style.WritesAll kpis →
      ((∃ report, ctx.analyse config ids order = .ok report) ↔
        ¬ ctx.DividesByZero config.benchmarks) := by
  refine ⟨BenchmarkResult.exists_fields_iff, ValidationRule.exists_issue_iff,
    Context.exists_report_iff, ?_⟩
  intro kpis hkpis hwrites
  rw [Context.exists_report_iff, Context.stops_iff_of_writesAll hkpis hwrites]

/-- A row that asks for a negative number of places. -/
def roundedMarginRow : List (Datum × Datum) :=
  [(.text "kpi_id", .text "margin"), (.text "decimals", .text "-1")]

/-- A rated KPI. -/
def ratedMargin : BenchmarkResult where
  kpiId := "margin"
  value := 12.0
  rating := .good
  direction := .higher
  levels := ⟨5.0, 8.0, 10.0, 20.0⟩

/-- The sheet of KPIs lets a negative number of places pass, and so do the default settings. -/
theorem roundedMargin_stops_fields : ¬ ∀ (rows : List Datum) (l : Load Kpi)
    (fields : List (Datum × Datum)) (settings : Settings),
    loadKpis rows = .ok l → Settings.ofFields fields = .ok settings →
      (∀ kpi ∈ l.items, ∀ (result : BenchmarkResult) (prefixId : String),
        result.value.isFinite = true →
          ∃ fs, result.fields kpi settings.style prefixId = .ok fs) ∧
      ∀ (rule : ValidationRule) (outcome : Outcome) (ctx : Context), ctx.settings = settings →
        outcome.isFailure = true → ∃ issue, rule.issue outcome ctx = .ok issue := by
  intro h
  obtain ⟨settings, hsettings⟩ : ∃ settings, Settings.ofFields [] = .ok settings :=
    exists_eq_ok (by decide)
  obtain ⟨l, hl⟩ : ∃ l, loadKpis [.record roundedMarginRow] = .ok l :=
    exists_eq_ok (by decide)
  have hitems : (loadKpis [.record roundedMarginRow]).toOption.map (·.items) =
      some [{ id := "margin", places := some (-1) }] := by decide
  rw [hl] at hitems
  have hone : l.items = [{ id := "margin", places := some (-1) }] := Option.some.inj hitems
  have hkpi : { id := "margin", places := some (-1) } ∈ l.items := by simp [hone]
  have hfields := (h _ l [] settings hl hsettings).1 _ hkpi ratedMargin "" (by decide)
  have hplaces : Writable (-1) := (BenchmarkResult.exists_fields_iff.1 hfields).2
  exact absurd hplaces (by decide)

end Scorecard
