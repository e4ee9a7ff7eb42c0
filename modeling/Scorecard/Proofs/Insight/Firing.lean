import Scorecard.Proofs.Assoc
import Scorecard.Proofs.Insight.Run
import Scorecard.Proofs.Insight.Sections

/-!
# Which insight rules fire

A rule whose trigger cannot be read gives a warning. Any other rule fires exactly if every KPI of
its clauses is rated and its rating meets the condition, and a rule that fires gives one finding. A
run over many rules is put together from runs of the single rules, which know nothing of each other.
-/

namespace Scorecard

open Text (lower)

/-! ## Clauses that hold -/

/-- The rating of a KPI in a mapping from ids to ratings, where letter case does not count and the
last of several entries holds. -/
def ratingOf? (ratings : List (String × Rating)) (kpiId : String) : Option Rating :=
  (ratings.filter fun entry => lower entry.1 = lower kpiId).getLast?.map Prod.snd

/-- Whether the KPI of a clause is rated, and the rating meets the condition. -/
def Clause.MetBy (ratings : List (String × Rating)) (c : Clause) : Prop :=
  ∃ rating, ratingOf? ratings c.kpiId = some rating ∧ c.condition.holds rating = true

section Clauses

variable {ratings : List (String × Rating)} {results : List BenchmarkResult}

theorem rating?_of (ratings : List (String × Rating)) (results : List BenchmarkResult)
    (kpiId : String) :
    (RatingLookup.of ratings results).rating? (lower kpiId) = ratingOf? ratings kpiId := by
  unfold RatingLookup.of
  dsimp only
  rw [Assoc.lookup_ofList, List.filter_map, List.getLast?_map, Option.map_map]
  rfl

theorem Clause.metBy_iff {c : Clause} :
    c.MetBy ratings ↔ c.condition.holdsFor (ratingOf? ratings c.kpiId) = true := by
  unfold MetBy
  cases ratingOf? ratings c.kpiId with
  | none => simp [Condition.holdsFor]
  | some rating => simp [Condition.holdsFor]

theorem fires_iff {clauses : List Clause} :
    Trigger.fires clauses (RatingLookup.of ratings results).rating? = true ↔
      ∀ c ∈ clauses, c.MetBy ratings := by
  unfold Trigger.fires
  rw [List.all_eq_true]
  simp only [Clause.metBy_iff, rating?_of]

end Clauses

/-! ## One rule -/

/-- What a rule comes to, as the findings and the warnings that it gives. -/
inductive InsightRule.ComesTo (rule : InsightRule) (ctx : Context)
    (ratings : List (String × Rating)) (results : List BenchmarkResult) :
    List Finding → List Warning → Prop
  /-- Its trigger cannot be read. -/
  | malformed {e : TriggerError} (hclauses : rule.clauses = .error e) :
    ComesTo rule ctx ratings results [] [⟨.insight, rule.id, .trigger e⟩]
  /-- All of its clauses hold, and there is one at least. -/
  | fired {clauses : List Clause} {finding : Finding} (hclauses : rule.clauses = .ok clauses)
    (hsome : clauses ≠ []) (hmet : ∀ c ∈ clauses, c.MetBy ratings)
    (hrender : rule.render clauses ctx (.of ratings results) = .ok finding)
    (hid : finding.id = rule.id) : ComesTo rule ctx ratings results [finding] []
  /-- One of its clauses does not hold. -/
  | silent {clauses : List Clause} (hclauses : rule.clauses = .ok clauses)
    (hunmet : ∃ c ∈ clauses, ¬ c.MetBy ratings) : ComesTo rule ctx ratings results [] []

/-- A rule that can be rendered, if it fires. -/
def InsightRule.Renders (rule : InsightRule) (ctx : Context) (ratings : List (String × Rating))
    (results : List BenchmarkResult) : Prop :=
  ∀ clauses, rule.clauses = .ok clauses → (∀ c ∈ clauses, c.MetBy ratings) →
    ∃ finding, rule.render clauses ctx (.of ratings results) = .ok finding

namespace InsightRule

variable {rule : InsightRule} {ctx : Context} {ratings : List (String × Rating)}
  {results : List BenchmarkResult}

theorem comesTo_of_fire {firing : Firing}
    (h : rule.fire ctx (.of ratings results) = .ok firing) :
    rule.ComesTo ctx ratings results firing.finding?.toList firing.warning?.toList := by
  rcases fire_eq_ok_iff.1 h with ⟨e, he, rfl⟩ | ⟨clauses, hclauses, hend⟩
  · exact .malformed he
  · rcases hend with ⟨hfires, finding, hfinding, rfl⟩ | ⟨hfires, rfl⟩
    · obtain ⟨fields, -, hshown⟩ := render_eq_ok_iff.1 hfinding
      have hid : finding.id = rule.id := congrArg Finding.id hshown
      exact .fired hclauses (clauses_ne_nil hclauses) (fires_iff.1 hfires) hfinding hid
    · refine .silent hclauses ?_
      by_contra hnone
      push Not at hnone
      rw [fires_iff.2 hnone] at hfires
      cases hfires

/-- Rendering is the only thing that can stop a rule. -/
theorem exists_fire_iff :
    (∃ firing, rule.fire ctx (.of ratings results) = .ok firing) ↔
      rule.Renders ctx ratings results := by
  constructor
  · rintro ⟨firing, h⟩ clauses hclauses hmet
    rcases fire_eq_ok_iff.1 h with ⟨e, he, -⟩ | ⟨clauses', hclauses', hend⟩
    · rw [hclauses] at he
      cases he
    · obtain rfl := Except.ok.inj (hclauses.symm.trans hclauses')
      rcases hend with ⟨-, finding, hfinding, -⟩ | ⟨hfires, -⟩
      · exact ⟨finding, hfinding⟩
      · rw [fires_iff.2 hmet] at hfires
        cases hfires
  · intro h
    cases hclauses : rule.clauses with
    | error e => exact ⟨_, fire_eq_ok_iff.2 (.inl ⟨e, hclauses, rfl⟩)⟩
    | ok clauses =>
      cases hfires : Trigger.fires clauses (RatingLookup.of ratings results).rating? with
      | true =>
        obtain ⟨finding, hfinding⟩ := h clauses hclauses (fires_iff.1 hfires)
        exact ⟨_, fire_eq_ok_iff.2
          (.inr ⟨clauses, hclauses, .inl ⟨hfires, finding, hfinding, rfl⟩⟩)⟩
      | false => exact ⟨_, fire_eq_ok_iff.2 (.inr ⟨clauses, hclauses, .inr ⟨hfires, rfl⟩⟩)⟩

/-- Without ratings no rule gives a finding. -/
theorem ComesTo.eq_nil_of_no_ratings {findings : List Finding} {warnings : List Warning}
    (h : rule.ComesTo ctx [] results findings warnings) : findings = [] := by
  cases h with
  | malformed => rfl
  | silent => rfl
  | @fired clauses finding _ hsome hmet =>
    obtain ⟨c, hc⟩ := List.exists_mem_of_ne_nil clauses hsome
    obtain ⟨rating, hrating, -⟩ := hmet c hc
    cases hrating

end InsightRule

/-! ## All rules -/

theorem Firing.finding?_eq_some_iff {firing : Firing} {finding : Finding} :
    firing.finding? = some finding ↔ firing = .fired finding := by
  cases firing <;> simp [finding?]

/-- The run in which one rule came to what it did. -/
def Firing.run (order : StatusOrder) (firing : Firing) : InsightRun where
  sections := .ofFindings order firing.finding?.toList
  warnings := firing.warning?.toList

theorem Firing.findings_run (order : StatusOrder) (firing : Firing) :
    (firing.run order).findings = firing.finding?.toList := by
  have hperm := Sections.findings_ofFindings_perm order firing.finding?.toList
  cases hfinding : firing.finding? with
  | none =>
    rw [hfinding] at hperm
    rw [InsightRun.findings, run, hfinding]
    exact hperm.eq_nil
  | some finding =>
    rw [hfinding] at hperm
    rw [InsightRun.findings, run, hfinding]
    exact List.perm_singleton.1 hperm

theorem Firing.findings_runs (order : StatusOrder) (firings : List Firing) :
    (firings.map (·.run order)).flatMap (·.findings) = firings.filterMap Firing.finding? := by
  rw [List.flatMap_map, List.filterMap_eq_flatMap_toList]
  exact List.flatMap_congr fun firing _ => firing.findings_run order

theorem Firing.warnings_runs (order : StatusOrder) (firings : List Firing) :
    (firings.map (·.run order)).flatMap (·.warnings) = firings.filterMap Firing.warning? := by
  rw [List.flatMap_map, List.filterMap_eq_flatMap_toList]
  rfl

section Runs

variable {rules : List InsightRule} {ctx : Context} {ratings : List (String × Rating)}
  {results : List BenchmarkResult} {order : Option StatusOrder}

theorem exists_findInsights_iff :
    (∃ run, findInsights rules ctx (.of ratings results) order = .ok run) ↔
      ∀ rule ∈ rules, rule.Renders ctx ratings results := by
  constructor
  · rintro ⟨run, hrun⟩ rule hrule
    obtain ⟨firings, hfirings, -⟩ := bind_eq_ok_iff.1 hrun
    exact InsightRule.exists_fire_iff.1 (exists_of_mapM_eq_ok hfirings hrule)
  · intro h
    obtain ⟨firings, hfirings⟩ := exists_mapM_eq_ok fun rule hrule =>
      InsightRule.exists_fire_iff.2 (h rule hrule)
    exact ⟨_, bind_eq_ok_iff.2 ⟨firings, hfirings, rfl⟩⟩

theorem findInsights_singleton {rule : InsightRule} {lookup : RatingLookup} {firing : Firing}
    (h : rule.fire ctx lookup = .ok firing) :
    findInsights [rule] ctx lookup order =
      .ok (firing.run (order.getD ctx.settings.statusOrder)) := by
  refine bind_eq_ok_iff.2 ⟨[firing], mapM_eq_ok_iff.2 (.cons h .nil), ?_⟩
  rw [List.filterMap_eq_flatMap_toList, List.filterMap_eq_flatMap_toList, List.flatMap_singleton,
    List.flatMap_singleton]
  rfl

/-- Each rule that is run with others gives what it comes to if it is run alone. -/
theorem forall₂_alone {firings : List Firing}
    (h : rules.mapM (·.fire ctx (.of ratings results)) = .ok firings) :
    List.Forall₂ (fun rule one =>
      findInsights [rule] ctx (.of ratings results) order = .ok one ∧
        rule.ComesTo ctx ratings results one.findings one.warnings)
      rules (firings.map (·.run (order.getD ctx.settings.statusOrder))) := by
  rw [List.forall₂_map_right_iff]
  refine (mapM_eq_ok_iff.1 h).imp fun rule firing hfiring => ?_
  refine ⟨findInsights_singleton hfiring, ?_⟩
  rw [firing.findings_run]
  exact InsightRule.comesTo_of_fire hfiring

/-- The findings of a run are those of the rules that fire. -/
theorem mem_findings_iff {lookup : RatingLookup} {run : InsightRun}
    (h : findInsights rules ctx lookup order = .ok run) {finding : Finding} :
    finding ∈ run.findings ↔ ∃ rule ∈ rules, rule.fire ctx lookup = .ok (.fired finding) := by
  obtain ⟨firings, hfirings, h⟩ := bind_eq_ok_iff.1 h
  obtain rfl := Except.ok.inj h
  rw [InsightRun.findings, (Sections.findings_ofFindings_perm _ _).mem_iff, List.mem_filterMap]
  simp only [Firing.finding?_eq_some_iff, exists_eq_right]
  exact mem_iff_of_mapM_eq_ok hfirings

theorem findings_eq_nil_of_no_ratings {run : InsightRun}
    (h : findInsights rules ctx (.of [] results) order = .ok run) : run.findings = [] := by
  refine List.eq_nil_iff_forall_not_mem.2 fun finding hmem => ?_
  obtain ⟨rule, -, hfire⟩ := (mem_findings_iff h).1 hmem
  have hcomes := InsightRule.comesTo_of_fire hfire
  exact absurd hcomes.eq_nil_of_no_ratings (List.cons_ne_nil _ _)

/-- Unless a rule that fires cannot be rendered there is a run. It accounts for each rule once: the
rule gives a warning, or a finding, or nothing, and it gives the same if it is run alone. Without
ratings there are no findings. -/
theorem findInsights_accounts (rules : List InsightRule) (ratings : List (String × Rating))
    (results : List BenchmarkResult) (ctx : Context) (order : Option StatusOrder) :
    ((∃ run, findInsights rules ctx (.of ratings results) order = .ok run) ↔
      ∀ rule ∈ rules, rule.Renders ctx ratings results) ∧
    ∀ run, findInsights rules ctx (.of ratings results) order = .ok run →
      (∃ alone : List InsightRun,
        List.Forall₂ (fun rule one =>
          findInsights [rule] ctx (.of ratings results) order = .ok one ∧
            rule.ComesTo ctx ratings results one.findings one.warnings) rules alone ∧
        run.warnings = alone.flatMap (·.warnings) ∧
        run.findings.Perm (alone.flatMap (·.findings)) ∧
        run.sections = .ofFindings (order.getD ctx.settings.statusOrder)
          (alone.flatMap (·.findings))) ∧
      (ratings = [] → run.findings = []) := by
  refine ⟨exists_findInsights_iff, ?_⟩
  intro run hrun
  obtain ⟨firings, hfirings, hfound⟩ := bind_eq_ok_iff.1 hrun
  set statusOrder := order.getD ctx.settings.statusOrder
  refine ⟨⟨firings.map (·.run statusOrder), forall₂_alone hfirings, ?_⟩, ?_⟩
  · obtain rfl := Except.ok.inj hfound
    rw [Firing.findings_runs, Firing.warnings_runs]
    exact ⟨rfl, Sections.findings_ofFindings_perm _ _, rfl⟩
  · rintro rfl
    exact findings_eq_nil_of_no_ratings hrun

end Runs

end Scorecard
