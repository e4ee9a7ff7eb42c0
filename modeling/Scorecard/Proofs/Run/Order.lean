import Scorecard.Proofs.Benchmark.Run
import Scorecard.Proofs.Check.Dependence
import Scorecard.Proofs.Insight.Run
import Scorecard.Proofs.Run.Basic
import Scorecard.Proofs.Validation

/-!
# The order of the values

The values of a client are a mapping, and the order of its entries is an accident. Only the
benchmark results and the warnings about them follow that order; issues, findings, their sections
and the totals do not.
-/

namespace Scorecard

/-! ## What reads a context -/

section Congruence

variable {ctx : Context} {readings : Readings}

theorem Context.kpi_congr (h : ctx.readings.find? = readings.find?) :
    ({ ctx with readings } : Context).kpi = ctx.kpi := by
  funext id
  rw [kpi, kpi, h]

/-- Rules come to the same outcome if every name addresses the same reading. -/
theorem ValidationRule.execute_readings (rule : ValidationRule)
    (h : ctx.readings.find? = readings.find?) :
    rule.execute { ctx with readings } .standard = rule.execute ctx .standard := by
  refine rule.execute_agree rfl fun id _ => ?_
  rw [Readings.value?, Readings.value?, h]

theorem InsightRule.fire_readings (rule : InsightRule) (lookup : RatingLookup)
    (h : ctx.readings.find? = readings.find?) :
    rule.fire { ctx with readings } lookup = rule.fire ctx lookup := by
  have hadd : addKpi { ctx with readings } lookup = addKpi ctx lookup := by
    funext prefixId fields kpiId
    rw [addKpi, addKpi, Context.kpi_congr h]
  have hfields (clauses : List Clause) :
      rule.fields clauses { ctx with readings } lookup = rule.fields clauses ctx lookup := by
    unfold fields
    rw [hadd]
  have hrender (clauses : List Clause) :
      rule.render clauses { ctx with readings } lookup = rule.render clauses ctx lookup := by
    unfold render
    rw [hfields]
  unfold fire
  split
  · rfl
  · rw [hrender]

/-- Insight rules find the same if every name addresses the same reading. -/
theorem findInsights_readings (rules : List InsightRule) (lookup : RatingLookup)
    (order : Option StatusOrder) (h : ctx.readings.find? = readings.find?) :
    findInsights rules { ctx with readings } lookup order =
      findInsights rules ctx lookup order := by
  have hfire : (fun rule : InsightRule => rule.fire { ctx with readings } lookup) =
      fun rule => rule.fire ctx lookup := by
    funext rule
    exact rule.fire_readings lookup h
  unfold findInsights
  rw [hfire]

end Congruence

/-! ## Reports -/

/-- Two reports that differ only in the order of benchmark results, ratings and warnings. -/
structure Report.SameUpToOrder (a b : Report) : Prop where
  /-- The client is the same. -/
  clientId : a.clientId = b.clientId
  /-- The rules are counted alike. -/
  counts : a.counts = b.counts
  /-- The issues are the same, in one order. -/
  issues : a.issues = b.issues
  /-- The findings are in the same sections, in one order. -/
  sections : a.sections = b.sections
  /-- The findings are the same, in one order. -/
  findings : a.findings = b.findings
  /-- The totals are the same. -/
  totals : a.totals = b.totals
  /-- The ratings are the same. -/
  ratings : a.ratings.Perm b.ratings
  /-- The benchmark results are the same. -/
  benchmarks : a.benchmarks.Perm b.benchmarks
  /-- The warnings are the same. -/
  warnings : a.warnings.Perm b.warnings

/-- Readings in another order give the same report up to the order of what was rated. -/
theorem Context.analyse_perm {ctx : Context} {readings : Readings}
    (hreadings : ctx.readings.WellFormed) (hperm : ctx.readings.entries.Perm readings.entries)
    {config : Configuration} {ids : Option (List String)} {order : Option StatusOrder}
    {report : Report} (h : ctx.analyse config ids order = .ok report) :
    ∃ report', ({ ctx with readings } : Context).analyse config ids order = .ok report' ∧
      report.SameUpToOrder report' := by
  have hfind := hreadings.find?_perm hperm
  obtain ⟨validation, rating, insight, hvalidation, hrating, hinsight, rfl⟩ := analyse_eq_ok_iff.1 h
  have hvalidation' :
      validate config.validationRules { ctx with readings } ids .standard = .ok validation := by
    refine validate_congr (List.forall₂_same.2 fun rule _ => ?_) hvalidation
    exact ⟨rule.formula, rfl, rule.execute_readings hfind⟩
  obtain ⟨rating', hrating', hresults, hwarnings⟩ := Selection.rateAll_perm hperm hrating
  have hlookup : rating.lookup = rating'.lookup :=
    RatingRun.lookup_perm hresults (Selection.rateAll_nodup hrating hreadings)
  have hinsight' : findInsights config.insightRules { ctx with readings } rating'.lookup order =
      .ok insight := by
    rw [findInsights_readings _ _ _ hfind, ← hlookup]
    exact hinsight
  refine ⟨_, analyse_eq_ok_iff.2 ⟨validation, rating', insight, hvalidation', hrating', hinsight',
    rfl⟩, ?_⟩
  refine ⟨rfl, rfl, rfl, rfl, rfl, ?_, hresults.map _, hresults,
    (hwarnings.append_left _).append_right _⟩
  have hcount : (rating.results.map fun b => (b.kpiId, b.rating)).length =
      (rating'.results.map fun b => (b.kpiId, b.rating)).length := (hresults.map _).length_eq
  unfold Report.totals Report.ratings Report.findings
  rw [hcount]

/-- Values in another order give the same report up to the order of what was rated. -/
theorem analyseValues_perm {values values' : List (String × Datum)} (hperm : values.Perm values')
    (hdistinct : (values.map fun value => Text.fold value.1).Nodup)
    {client : Client} {settings : Settings} {kpis : List Kpi} {config : Configuration}
    {ids : Option (List String)} {order : Option StatusOrder} {report : Report}
    (h : analyseValues values client settings kpis config ids order = .ok report) :
    ∃ report', analyseValues values' client settings kpis config ids order = .ok report' ∧
      report.SameUpToOrder report' := by
  obtain ⟨readings, hreadings, h⟩ := analyseValues_eq_ok_iff.1 h
  obtain ⟨readings', hreadings', hperm'⟩ := Readings.ofEntries_perm hperm hdistinct hreadings
  obtain ⟨report', hreport', hsame⟩ :=
    Context.analyse_perm (.ofEntries hreadings) hperm' h
  exact ⟨report', analyseValues_eq_ok_iff.2 ⟨readings', hreadings', hreport'⟩, hsame⟩

theorem analyseValues_trade_reverse :
    ∃ report report', analyseValues tradeValues {} {} [] tradeConfiguration none none = .ok report ∧
      analyseValues tradeValues.reverse {} {} [] tradeConfiguration none none = .ok report' ∧
      report.SameUpToOrder report' := by
  obtain ⟨report, h⟩ := analyseValues_trade
  obtain ⟨report', h', hsame⟩ :=
    analyseValues_perm tradeValues.reverse_perm.symm (by decide) h
  exact ⟨report, report', h, h', hsame⟩

end Scorecard
