import Scorecard.Proofs.Benchmark.Spelling
import Scorecard.Proofs.Check.Spelling
import Scorecard.Proofs.Insight.Spelling
import Scorecard.Proofs.Run.Basic

/-!
# Ids in other letter case

A configuration refers to KPIs by their ids in benchmarks, in the formulas of validation rules, and
in insight rules. Spelling these ids in other letter case changes nothing but the text of findings
that show several KPIs.
-/

namespace Scorecard

/-- Two configurations with well-formed formulas and triggers that differ in nothing but the
spelling of KPIs; formulas may have `limit` signs and parentheses around a token. -/
structure Configuration.Respelled (limit : Int) (config config' : Configuration) : Prop where
  /-- The validation rules differ in the spelling of KPIs alone. -/
  validationRules : List.Forall₂ (ValidationRule.Respelled limit) config.validationRules
    config'.validationRules
  /-- The benchmarks differ in the spelling of KPIs alone. -/
  benchmarks : List.Forall₂ Benchmark.Respelled config.benchmarks config'.benchmarks
  /-- The insight rules differ in the spelling of KPIs alone. -/
  insightRules : List.Forall₂ InsightRule.Respelled config.insightRules config'.insightRules

/-- Two reports that agree in all but the text of findings. The findings stand in the same sections
in the same order, and each is of the rule whose re-spelling its counterpart is of. -/
structure Report.SameButText (ctx : Context) (lookup : RatingLookup)
    (rules : List (InsightRule × InsightRule)) (a b : Report) : Prop where
  /-- Both are of one client. -/
  clientId : a.clientId = b.clientId
  /-- The validation rules are counted alike. -/
  counts : a.counts = b.counts
  /-- The same issues are found. -/
  issues : a.issues = b.issues
  /-- The same KPIs are rated, with the same figures and thresholds. -/
  benchmarks : a.benchmarks = b.benchmarks
  /-- The ratings by KPI are the same. -/
  ratings : a.ratings = b.ratings
  /-- The findings are counted alike. -/
  totals : a.totals = b.totals
  /-- The same warnings are given. -/
  warnings : a.warnings = b.warnings
  /-- A rule fires exactly if its re-spelling does. -/
  fires : ∀ p ∈ rules, (∃ f, p.1.fire ctx lookup = .ok (.fired f)) ↔
    ∃ f, p.2.fire ctx lookup = .ok (.fired f)
  /-- The sections hold counterparts in one order. -/
  sections : Sections.Alike (fun f f' => ∃ p ∈ rules, Counterparts ctx lookup p.1 p.2 f f')
    a.sections b.sections

theorem Sections.Alike.length_findings {R : Finding → Finding → Prop} {s t : Sections}
    (h : Sections.Alike R s t) : s.findings.length = t.findings.length := by
  have hfindings : List.Forall₂ R s.findings t.findings := by
    unfold Sections.findings
    exact List.rel_flatMap h fun _ _ hst => hst.2
  exact hfindings.length_eq

section Insights

variable {ctx : Context} {lookup : RatingLookup} {rules rules' : List InsightRule}

theorem fires_respelled (hcase : IgnoresCase ctx lookup) {rule rule' : InsightRule}
    (h : rule.Respelled rule') {a : Firing} (ha : rule.fire ctx lookup = .ok a) :
    (∃ f, rule.fire ctx lookup = .ok (.fired f)) ↔
      ∃ f, rule'.fire ctx lookup = .ok (.fired f) := by
  rcases h.fire hcase ha with ⟨rfl, hsilent⟩ | ⟨f, f', rfl, hcounter⟩
  · simp [ha, hsilent]
  · exact ⟨fun _ => ⟨f', hcounter.2.1⟩, fun _ => ⟨f, hcounter.1⟩⟩

/-- Re-spelled insight rules fire alike, and their findings stand in the same order. -/
theorem findInsights_respelled (hcase : IgnoresCase ctx lookup)
    (h : List.Forall₂ InsightRule.Respelled rules rules') {order : Option StatusOrder}
    {run : InsightRun} (hrun : findInsights rules ctx lookup order = .ok run) :
    ∃ run', findInsights rules' ctx lookup order = .ok run' ∧ run.warnings = run'.warnings ∧
      (∀ p ∈ rules.zip rules', (∃ f, p.1.fire ctx lookup = .ok (.fired f)) ↔
        ∃ f, p.2.fire ctx lookup = .ok (.fired f)) ∧
      Sections.Alike (fun f f' => ∃ p ∈ rules.zip rules', Counterparts ctx lookup p.1 p.2 f f')
        run.sections run'.sections := by
  obtain ⟨firings, hfirings, hrun⟩ := bind_eq_ok_iff.1 hrun
  obtain rfl := Except.ok.inj hrun
  have hstep : ∀ rule rule' a, (rule, rule') ∈ rules.zip rules' ∧ rule.Respelled rule' →
      rule.fire ctx lookup = .ok a →
      ∃ a', rule'.fire ctx lookup = .ok a' ∧ (a = .silent ∧ a' = .silent ∨
        ∃ f f', a = .fired f ∧ a' = .fired f' ∧
          ∃ p ∈ rules.zip rules', Counterparts ctx lookup p.1 p.2 f f') := by
    rintro rule rule' a ⟨hmem, hrule⟩ ha
    rcases hrule.fire hcase ha with ⟨rfl, hsilent⟩ | ⟨f, f', rfl, hcounter⟩
    · exact ⟨.silent, hsilent, .inl ⟨rfl, rfl⟩⟩
    · exact ⟨.fired f', hcounter.2.1, .inr ⟨f, f', rfl, rfl, (rule, rule'), hmem, hcounter⟩⟩
  obtain ⟨firings', hfirings', hpairs⟩ := mapM_forall₂ (forall₂_with_zip h) hstep hfirings
  refine ⟨_, bind_eq_ok_iff.2 ⟨firings', hfirings', rfl⟩, ?_, ?_, ?_⟩
  · refine filterMap_congr_forall₂ hpairs ?_
    rintro _ _ (⟨rfl, rfl⟩ | ⟨f, f', rfl, rfl, -⟩)
    · rfl
    · rfl
  · rintro ⟨rule, rule'⟩ hp
    obtain ⟨a, ha⟩ := exists_of_mapM_eq_ok hfirings (List.of_mem_zip hp).1
    exact fires_respelled hcase (List.forall₂_zip h hp) ha
  · refine Sections.ofFindings_alike ?_ _ (forall₂_filterMap hpairs ?_)
    · rintro f f' ⟨p, -, -, -, -, hplace, -⟩
      exact hplace
    · rintro _ _ (⟨rfl, rfl⟩ | ⟨f, f', rfl, rfl, hcounter⟩)
      · exact .none
      · exact .some hcounter

end Insights

/-- A re-spelled configuration comes to the same analysis. -/
theorem Context.analyse_respelled {ctx : Context} (hreadings : ctx.readings.WellFormed)
    (hkeys : ∀ key ∈ ctx.kpis.map Prod.fst, Text.lower key = key) {config config' : Configuration}
    (h : config.Respelled ctx.settings.maxDepth config') {ids : Option (List String)}
    {order : Option StatusOrder} {report : Report}
    (hreport : ctx.analyse config ids order = .ok report) :
    ∃ validation rating report',
      validate config.validationRules ctx ids .standard = .ok validation ∧
      validate config'.validationRules ctx ids .standard = .ok validation ∧
      (Selection.build config.benchmarks ctx.client ctx.settings).rateAll ctx = .ok rating ∧
      ctx.analyse config' ids order = .ok report' ∧
      report.SameButText ctx rating.lookup (config.insightRules.zip config'.insightRules)
        report' := by
  obtain ⟨validation, rating, insight, hvalidation, hrating, hinsight, rfl⟩ :=
    analyse_eq_ok_iff.1 hreport
  have hvalidation' : validate config'.validationRules ctx ids .standard = .ok validation :=
    validate_congr (h.validationRules.imp fun _ _ hrule => hrule.sameOutcome) hvalidation
  have hrating' :
      (Selection.build config'.benchmarks ctx.client ctx.settings).rateAll ctx = .ok rating := by
    rw [← (Selection.Respelled.build h.benchmarks ctx.client ctx.settings).rateAll ctx, hrating]
  obtain ⟨insight', hinsight', hwarnings, hfires, hsections⟩ :=
    findInsights_respelled (RatingRun.ignoresCase hrating hreadings hkeys) h.insightRules hinsight
  refine ⟨validation, rating, _, hvalidation, hvalidation', hrating,
    analyse_eq_ok_iff.2 ⟨validation, rating, insight', hvalidation', hrating', hinsight', rfl⟩, ?_⟩
  refine ⟨rfl, rfl, rfl, rfl, rfl, ?_, ?_, hfires, hsections⟩
  · unfold Report.totals Report.ratings Report.findings
    rw [hsections.length_findings]
  · rw [hwarnings]

/-- Spelling ids in other letter case, wherever a configuration refers to KPIs, leaves everything
that validation reports, the ratings and the benchmark results as they are. The same rules fire in
the same order, and where a single KPI is shown by one clause the finding is the same as well. -/
theorem analyseValues_respelled {config config' : Configuration} {settings : Settings}
    (hspelling : config.Respelled settings.maxDepth config') {values : List (String × Datum)}
    {client : Client} {kpis : List Kpi} {ids : Option (List String)} {order : Option StatusOrder}
    {report : Report}
    (h : analyseValues values client settings kpis config ids order = .ok report) :
    ∃ ctx validation rating report',
      Context.ofValues values client settings kpis = .ok ctx ∧
      validate config.validationRules ctx ids .standard = .ok validation ∧
      validate config'.validationRules ctx ids .standard = .ok validation ∧
      (Selection.build config.benchmarks client settings).rateAll ctx = .ok rating ∧
      analyseValues values client settings kpis config' ids order = .ok report' ∧
      report.SameButText ctx rating.lookup (config.insightRules.zip config'.insightRules)
        report' := by
  obtain ⟨readings, hreadings, h⟩ := analyseValues_eq_ok_iff.1 h
  obtain ⟨validation, rating, report', hvalidation, hvalidation', hrating, hreport', hsame⟩ :=
    Context.analyse_respelled (.ofEntries hreadings) (Context.indexKpis_keys kpis) hspelling h
  exact ⟨_, validation, rating, report', map_eq_ok_iff.2 ⟨readings, hreadings, rfl⟩, hvalidation,
    hvalidation', hrating, analyseValues_eq_ok_iff.2 ⟨readings, hreadings, hreport'⟩, hsame⟩

/-- The configuration of a small firm with ids in other letter case. -/
def tradeConfigurationRespelled : Configuration where
  validationRules := [{ id := "covered", formula := "GTE:Revenue:COSTS" }]
  benchmarks :=
    [{ kpiId := "Revenue", levels := ⟨some 50.0, some 80.0, some 100.0, some 150.0⟩ },
      { kpiId := "staff", levels := ⟨some 1.0, some 2.0, some 5.0, some 9.0⟩ }]
  insightRules :=
    [{ id := "sales", kpiIds := ["revenue"], trigger := "good+", sectionId := "trade" },
      { id := "growth", kind := .composite, kpiIds := ["revenue"],
        trigger := "Revenue:good+ AND Staff:any", sectionId := "trade" }]

theorem tradeConfiguration_respelled :
    tradeConfiguration.Respelled 32 tradeConfigurationRespelled where
  validationRules := by
    have hrevenue : Expr.RespelledText "revenue" "Revenue" :=
      ⟨[⟨.ident "revenue", 0⟩], [⟨.ident "Revenue", 0⟩], by decide +kernel, by decide +kernel,
        .cons (.ident (by decide)) .nil⟩
    have hcosts : Expr.RespelledText "costs" "COSTS" :=
      ⟨[⟨.ident "costs", 0⟩], [⟨.ident "COSTS", 0⟩], by decide +kernel, by decide +kernel,
        .cons (.ident (by decide)) .nil⟩
    have hsplit : Formula.split "GTE:revenue:costs" = ("GTE", ["revenue", "costs"]) := by
      decide
    have hsplit' : Formula.split "GTE:Revenue:COSTS" = ("GTE", ["Revenue", "COSTS"]) := by
      decide
    have hkinds : (Registry.standard.find? (Formula.split "GTE:revenue:costs").1).map
        (·.argumentKinds) = some [.expression, .expression] := by
      decide
    refine .cons ⟨rfl, Formula.respelled_of_split (by decide +kernel) (by decide +kernel)
      (by rw [hsplit, hsplit']) hkinds ?_⟩ .nil
    rw [hsplit, hsplit']
    exact .cons hrevenue (.cons hcosts .nil)
  benchmarks :=
    .cons ⟨rfl, by decide⟩ (.cons ⟨rfl, by decide⟩ .nil)
  insightRules :=
    .cons ⟨rfl, by decide, [⟨"REVENUE", .orBetter .good⟩], [⟨"revenue", .orBetter .good⟩],
      by decide, by decide, by decide⟩
    (.cons ⟨rfl, by decide, [⟨"revenue", .orBetter .good⟩, ⟨"staff", .any⟩],
      [⟨"Revenue", .orBetter .good⟩, ⟨"Staff", .any⟩], by decide +kernel, by decide +kernel,
      by decide⟩ .nil)

theorem analyseValues_trade_respelled :
    ∃ report ctx validation rating report',
      analyseValues tradeValues {} {} [] tradeConfiguration none none = .ok report ∧
      Context.ofValues tradeValues {} {} [] = .ok ctx ∧
      validate tradeConfiguration.validationRules ctx none .standard = .ok validation ∧
      validate tradeConfigurationRespelled.validationRules ctx none .standard = .ok validation ∧
      (Selection.build tradeConfiguration.benchmarks {} {}).rateAll ctx = .ok rating ∧
      analyseValues tradeValues {} {} [] tradeConfigurationRespelled none none = .ok report' ∧
      report.SameButText ctx rating.lookup
        (tradeConfiguration.insightRules.zip tradeConfigurationRespelled.insightRules) report' := by
  obtain ⟨report, h⟩ := analyseValues_trade
  obtain ⟨ctx, validation, rating, report', hrest⟩ :=
    analyseValues_respelled tradeConfiguration_respelled h
  exact ⟨report, ctx, validation, rating, report', h, hrest⟩

end Scorecard
