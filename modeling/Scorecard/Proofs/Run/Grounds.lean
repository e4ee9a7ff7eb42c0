import Scorecard.Proofs.Benchmark.Run
import Scorecard.Proofs.Insight.Fields
import Scorecard.Proofs.Insight.Firing
import Scorecard.Proofs.Run.Basic

/-!
# What findings rest on

Insight rules read the ratings and the benchmark results of the same report. Since the KPIs of the
readings differ in more than letter case, a KPI has one entry in each of the two or none in both,
and the entries agree. So each clause of a rule that fires rests on one rating and on one result
with that rating, and the rule shows all fields of that result.
-/

namespace Scorecard

open Text (lower)

/-- The ratings and results of a report as insight rules look them up. -/
def Report.lookup (report : Report) : RatingLookup :=
  .of report.ratings report.benchmarks

/-- The one rating and the one result of the KPI of a clause, which agree and meet its condition. -/
structure Clause.RestsOn (c : Clause) (report : Report) (result : BenchmarkResult) : Prop where
  /-- One entry of the ratings is of the KPI, and it shows the rating of the result. -/
  ratings : report.ratings.filter (fun entry => lower entry.1 = lower c.kpiId) =
    [(result.kpiId, result.rating)]
  /-- The result is the only one of the KPI. -/
  benchmarks : report.benchmarks.filter (fun r => lower r.kpiId = lower c.kpiId) = [result]
  /-- The rating meets the condition. -/
  met : c.condition.holds result.rating = true

/-- A finding that a rule with these clauses renders from these fields, where each clause rests on a
result and the fields hold all that is to be told of it. -/
structure InsightRule.Grounds (rule : InsightRule) (ctx : Context) (report : Report)
    (clauses : List Clause) (fields : Fields) (finding : Finding) : Prop where
  /-- The trigger has these clauses. -/
  clauses_eq : rule.clauses = .ok clauses
  /-- The fields are those that the rule renders from. -/
  fields_eq : rule.fields clauses ctx report.lookup = .ok fields
  /-- The finding is what the rule renders from the fields. -/
  finding_eq : finding = rule.shown ctx.settings fields
  /-- Each clause rests on a result, which the fields show: under the plain names if it is the only
  one of a single rule, and otherwise under the prefix that is the spelling of the KPI. -/
  clause : ∀ c ∈ clauses, ∃ result, c.RestsOn report result ∧
    if rule.kind = .single ∧ clauses.length = 1 then
      fields.Show KpiField.plainName result (ctx.kpi c.kpiId) ctx.settings.style
    else ∃ spelling, rule.spelling? clauses c.kpiId = some spelling ∧
      fields.Show (KpiField.nameFor spelling) result (ctx.kpi spelling) ctx.settings.style

theorem filter_eq_singleton {α κ : Type} [DecidableEq κ] {key : α → κ} {l : List α} {a : α}
    (hnodup : (l.map key).Nodup) (ha : a ∈ l) : l.filter (key · = key a) = [a] := by
  obtain ⟨front, back, rfl⟩ := List.append_of_mem ha
  rw [List.map_append, List.map_cons, List.nodup_append, List.nodup_cons] at hnodup
  obtain ⟨-, ⟨hback, -⟩, hfront⟩ := hnodup
  have hnone : front.filter (key · = key a) = [] := by
    refine List.filter_eq_nil_iff.2 fun b hb => ?_
    simpa using hfront _ (List.mem_map_of_mem hb) _ List.mem_cons_self
  have hnone' : back.filter (key · = key a) = [] := by
    refine List.filter_eq_nil_iff.2 fun b hb => ?_
    have hne : key b ≠ key a := fun h => hback (h ▸ List.mem_map_of_mem hb)
    simpa using hne
  rw [List.filter_append, List.filter_cons_of_pos (by simp), hnone, hnone', List.nil_append]

section Rating

variable {selection : Selection} {ctx : Context} {run : RatingRun}

theorem RatingRun.named (hrun : selection.rateAll ctx = .ok run)
    (hsound : ∀ reading ∈ ctx.readings.entries, reading.Sound)
    (hnodup : (run.results.map fun r => lower r.kpiId).Nodup) (id : String)
    (h : (run.lookup.result? (lower id)).isSome = true) : id ≠ "" := by
  obtain ⟨result, hresult⟩ := Option.isSome_iff_exists.1 h
  obtain ⟨hmem, hid⟩ := (lookup_result?_eq_some_iff hnodup).1 hresult
  have hsource := (Selection.rateAll_sublist hrun).subset (List.mem_map_of_mem hmem)
  obtain ⟨reading, hreading, hsame⟩ := List.mem_map.1 hsource
  rintro rfl
  have hempty : result.kpiId = "" := Text.lower_eq_empty_iff.1 hid
  exact (hsound reading hreading).named (hsame.trans hempty)

end Rating

theorem Clause.exists_restsOn {report : Report} {c : Clause}
    (hnodup : (report.benchmarks.map fun r => lower r.kpiId).Nodup)
    (h : c.condition.holdsFor (report.lookup.rating? (lower c.kpiId)) = true) :
    ∃ result, report.lookup.result? (lower c.kpiId) = some result ∧ c.RestsOn report result := by
  -- The look-up of a report is that of a rating run with the same results.
  set run : RatingRun := ⟨report.benchmarks, []⟩
  have hlookup : report.lookup = run.lookup := rfl
  rw [hlookup] at h ⊢
  cases hrating : run.lookup.rating? (lower c.kpiId) with
  | none =>
    rw [hrating] at h
    cases h
  | some rating =>
    rw [hrating] at h
    obtain ⟨result, hmem, hid, rfl⟩ := (RatingRun.lookup_rating?_eq_some_iff hnodup).1 hrating
    have hone : report.benchmarks.filter (fun r => lower r.kpiId = lower c.kpiId) = [result] := by
      rw [← hid]
      exact filter_eq_singleton hnodup hmem
    refine ⟨result, (RatingRun.lookup_result?_eq_some_iff hnodup).2 ⟨hmem, hid⟩, ?_, hone, h⟩
    rw [Report.ratings, List.filter_map]
    exact congrArg (List.map fun b : BenchmarkResult => (b.kpiId, b.rating)) hone

/-- A report whose findings are those of the rules that fire, each of them grounded. -/
structure Report.Grounded (report : Report) (ctx : Context) (rules : List InsightRule) : Prop where
  /-- The findings are those of the rules that fire. -/
  findings : ∀ finding, finding ∈ report.findings ↔
    ∃ rule ∈ rules, rule.fire ctx report.lookup = .ok (.fired finding)
  /-- Each of them rests on its clauses, and shows its fields. -/
  grounds : ∀ rule ∈ rules, ∀ finding, rule.fire ctx report.lookup = .ok (.fired finding) →
    ∃ clauses fields, rule.Grounds ctx report clauses fields finding

/-- Every finding of an analysis is grounded. For each clause of a rule that fires there is exactly
one rating and exactly one benchmark result of its KPI, where letter case does not count; they
agree, the rating meets the condition, and the rule shows all nine fields of that result: under
plain names if it is on a single KPI and has one clause, and else under names that start with the
first spelling of the KPI among the ids of the rule and those of its clauses. -/
theorem Context.analyse_grounded {values : List (String × Datum)} {ctx : Context}
    (hreadings : Readings.ofEntries values = .ok ctx.readings) {config : Configuration}
    {ids : Option (List String)} {order : Option StatusOrder} {report : Report}
    (h : ctx.analyse config ids order = .ok report) :
    report.Grounded ctx config.insightRules := by
  obtain ⟨validation, rating, insight, -, hrating, hinsight, rfl⟩ := analyse_eq_ok_iff.1 h
  -- No two results, and so no two ratings, are of ids that differ in letter case only.
  have hwellFormed := Readings.WellFormed.ofEntries hreadings
  have hsound := Readings.sound_ofEntries hreadings
  have hnodup := Selection.rateAll_nodup hrating hwellFormed
  have hnamed := RatingRun.named hrating hsound hnodup
  refine ⟨fun finding => mem_findings_iff hinsight, ?_⟩
  intro rule _ finding hfire
  rcases InsightRule.fire_eq_ok_iff.1 hfire with ⟨_, -, hfiring⟩ | ⟨clauses, hclauses, hend⟩
  · cases hfiring
  · rcases hend with ⟨hfires, finding', hrender, hfiring⟩ | ⟨-, hfiring⟩
    · obtain rfl := Firing.fired.inj hfiring
      obtain ⟨fields, hfields, hfinding⟩ := InsightRule.render_eq_ok_iff.1 hrender
      refine ⟨clauses, fields, hclauses, hfields, hfinding, fun c hc => ?_⟩
      have hholds := List.all_eq_true.1 hfires c hc
      obtain ⟨result, hresult, hrests⟩ := Clause.exists_restsOn hnodup hholds
      exact ⟨result, hrests, InsightRule.fields_show hnamed hfields hc hresult⟩
    · cases hfiring

theorem Context.analyse_trade_grounded :
    ∃ (ctx : Context) (report : Report), Readings.ofEntries tradeValues = .ok ctx.readings ∧
      ctx.analyse tradeConfiguration none none = .ok report ∧
      (∀ rule ∈ tradeConfiguration.insightRules,
        ∃ finding, rule.fire ctx report.lookup = .ok (.fired finding)) ∧
      report.Grounded ctx tradeConfiguration.insightRules := by
  have hfires : ((Context.ofValues tradeValues {} {} []).bind fun ctx =>
      (ctx.analyse tradeConfiguration none none).map fun report =>
        tradeConfiguration.insightRules.all fun rule =>
          ((rule.fire ctx report.lookup).toOption.bind Firing.finding?).isSome).toOption =
      some true := by decide +kernel
  obtain ⟨report, hreport⟩ := analyseValues_trade
  obtain ⟨ctx, hctx, hanalyse⟩ := bind_eq_ok_iff.1 hreport
  rw [hctx, Except.bind, hanalyse] at hfires
  have hall := List.all_eq_true.1 (Option.some.inj hfires)
  have hreadings : Readings.ofEntries tradeValues = .ok ctx.readings := by
    obtain ⟨readings, hreadings, rfl⟩ := map_eq_ok_iff.1 hctx
    exact hreadings
  refine ⟨ctx, report, hreadings, hanalyse, fun rule hrule => ?_,
    Context.analyse_grounded hreadings hanalyse⟩
  obtain ⟨finding, hfinding⟩ := Option.isSome_iff_exists.1 (hall rule hrule)
  cases hfire : rule.fire ctx report.lookup with
  | error e =>
    rw [hfire] at hfinding
    cases hfinding
  | ok firing =>
    rw [hfire] at hfinding
    exact ⟨finding, congrArg Except.ok (Firing.finding?_eq_some_iff.1 hfinding)⟩

end Scorecard
