import Scorecard.Proofs.Sequence
import Scorecard.Report.Run

/-!
# Analyses that give a report

An analysis gives a report exactly if its three stages come to an end, and an analysis of values
exactly if the values can be read and the analysis of the readings gives one. What is known of a
report is read off its stages.
-/

namespace Scorecard

variable {config : Configuration} {ids : Option (List String)} {order : Option StatusOrder}
  {report : Report}

theorem Context.analyse_eq_ok_iff {ctx : Context} :
    ctx.analyse config ids order = .ok report ↔ ∃ validation rating insight,
      validate config.validationRules ctx ids .standard = .ok validation ∧
      (Selection.build config.benchmarks ctx.client ctx.settings).rateAll ctx = .ok rating ∧
      findInsights config.insightRules ctx (RatingLookup.of rating.ratings rating.results) order =
        .ok insight ∧
      { clientId := ctx.client.id
        counts := validation.counts
        issues := validation.issues
        benchmarks := rating.results
        sections := insight.sections
        warnings := validation.warnings ++ rating.warnings ++ insight.warnings } = report := by
  simp only [analyse, bind_eq_ok_iff]
  constructor
  · rintro ⟨validation, hvalidation, rating, hrating, insight, hinsight, h⟩
    exact ⟨validation, rating, insight, hvalidation, hrating, hinsight, Except.ok.inj h⟩
  · rintro ⟨validation, rating, insight, hvalidation, hrating, hinsight, rfl⟩
    exact ⟨validation, hvalidation, rating, hrating, insight, hinsight, rfl⟩

theorem analyseValues_eq_ok_iff {values : List (String × Datum)} {client : Client}
    {settings : Settings} {kpis : List Kpi} :
    analyseValues values client settings kpis config ids order = .ok report ↔
      ∃ readings, Readings.ofEntries values = .ok readings ∧
        ({ readings, client, settings, kpis := Context.indexKpis kpis } : Context).analyse
          config ids order = .ok report := by
  rw [analyseValues, bind_eq_ok_iff]
  simp only [Context.ofValues, map_eq_ok_iff]
  constructor
  · rintro ⟨_, ⟨readings, hreadings, rfl⟩, h⟩
    exact ⟨readings, hreadings, h⟩
  · rintro ⟨readings, hreadings, h⟩
    exact ⟨_, ⟨readings, hreadings, rfl⟩, h⟩

/-! ## A small firm -/

/-- The values of a small firm. -/
def tradeValues : List (String × Datum) :=
  [("Revenue", .int 120), (" costs", .text "90"), ("Staff", .int 4)]

/-- A rule, two benchmarks and two findings for a small firm. -/
def tradeConfiguration : Configuration where
  validationRules := [{ id := "covered", formula := "GTE:revenue:costs" }]
  benchmarks :=
    [{ kpiId := "revenue", levels := ⟨some 50.0, some 80.0, some 100.0, some 150.0⟩ },
      { kpiId := "STAFF", levels := ⟨some 1.0, some 2.0, some 5.0, some 9.0⟩ }]
  insightRules :=
    [{ id := "sales", kpiIds := ["REVENUE"], trigger := "good+", sectionId := "trade" },
      { id := "growth", kind := .composite, kpiIds := ["revenue"],
        trigger := "revenue:good+ AND staff:any", sectionId := "trade" }]

/-- The firm is analysed without a fault. -/
theorem analyseValues_trade :
    ∃ report, analyseValues tradeValues {} {} [] tradeConfiguration none none = .ok report :=
  exists_eq_ok (by decide +kernel)

end Scorecard
