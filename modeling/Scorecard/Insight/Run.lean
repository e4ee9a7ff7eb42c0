import Scorecard.Insight.KpiFields
import Scorecard.Insight.Order

/-!
# Running insight rules

A rule whose trigger cannot be read gives a warning. A rule whose trigger holds for the ratings
gives a finding, rendered with the benchmark results; every other rule gives nothing.
-/

namespace Scorecard

/-- What insight rules read of the ratings. -/
structure RatingLookup where
  /-- The rating of a KPI by its id in lower case. -/
  rating? : String → Option Rating
  /-- The benchmark result of a KPI by its id in lower case. -/
  result? : String → Option BenchmarkResult

/-- The look-up in a list of ratings and a list of results; of several for one KPI the last
holds. -/
def RatingLookup.of (ratings : List (String × Rating)) (results : List BenchmarkResult) :
    RatingLookup where
  rating? key := List.lookup key (Assoc.ofList (ratings.map fun (id, r) => (Text.lower id, r)))
  result? key := List.lookup key (Assoc.ofList (results.map fun r => (Text.lower r.kpiId, r)))

/-- The ids without those that an earlier one equals in lower case. -/
def distinctIds (ids : List String) : List String :=
  ids.foldl (fun kept id =>
    if kept.any (Text.lower · = Text.lower id) then kept else kept ++ [id]) []

namespace InsightRule

/-- The fields with those of one KPI set, if it has a benchmark result. -/
def addKpi (ctx : Context) (lookup : RatingLookup) (prefixId : String) (fields : Fields)
    (kpiId : String) : Except Fault Fields :=
  match lookup.result? (Text.lower kpiId) with
  | none => .ok fields
  | some result =>
    (result.fields (ctx.kpi kpiId) ctx.settings.style prefixId).map fields.update

/-- The fields that the templates of a rule may show. -/
def fields (rule : InsightRule) (clauses : List Clause) (ctx : Context) (lookup : RatingLookup) :
    Except Fault Fields :=
  match rule.kind, clauses with
  | .single, [clause] => addKpi ctx lookup "" ctx.client.fields clause.kpiId
  | _, _ =>
    (distinctIds (rule.kpiIds ++ clauses.map (·.kpiId))).foldlM
      (fun fields kpiId => addKpi ctx lookup kpiId fields kpiId) ctx.client.fields

/-- The first items of a list, or all but the last ones if the number is negative. -/
def firstOrAllBut {α : Type} (n : Int) (items : List α) : List α :=
  if n < 0 then items.take (items.length - n.natAbs) else items.take n.toNat

/-- The finding of a rule that fires. -/
def render (rule : InsightRule) (clauses : List Clause) (ctx : Context)
    (lookup : RatingLookup) : Except Fault Finding := do
  let fields ← rule.fields clauses ctx lookup
  let shown (template : String) : String := Template.render template fields.text?
  return {
    id := rule.id
    title := shown rule.title
    status := rule.status
    summary := shown rule.summary
    detail := shown rule.detail
    recommendations :=
      firstOrAllBut ctx.settings.maxRecommendations (rule.recommendations.map shown)
    sectionId := rule.sectionId
    priority := rule.priority }

end InsightRule

/-- What came of one insight rule. -/
inductive Firing where
  /-- Its trigger cannot be read. -/
  | malformed (warning : Warning)
  /-- It did not fire. -/
  | silent
  /-- It fired. -/
  | fired (finding : Finding)

/-- The finding, if the rule fired. -/
def Firing.finding? : Firing → Option Finding
  | fired finding => some finding
  | _ => none

/-- The warning, if the trigger cannot be read. -/
def Firing.warning? : Firing → Option Warning
  | malformed warning => some warning
  | _ => none

/-- Runs one insight rule. -/
def InsightRule.fire (rule : InsightRule) (ctx : Context) (lookup : RatingLookup) :
    Except Fault Firing :=
  match rule.clauses with
  | .error e => .ok (.malformed ⟨.insight, rule.id, .trigger e⟩)
  | .ok clauses =>
    if Trigger.fires clauses lookup.rating? then
      (rule.render clauses ctx lookup).map .fired
    else .ok .silent

/-- What came of all insight rules. -/
structure InsightRun where
  /-- The findings in their sections. -/
  sections : Sections
  /-- The triggers that cannot be read. -/
  warnings : List Warning

/-- The findings, section by section. -/
def InsightRun.findings (run : InsightRun) : List Finding :=
  run.sections.findings

/-- Runs the insight rules. Findings are sorted by the given order, or else by that of the
settings. -/
def findInsights (rules : List InsightRule) (ctx : Context) (lookup : RatingLookup)
    (order : Option StatusOrder) : Except Fault InsightRun := do
  let firings ← rules.mapM (·.fire ctx lookup)
  return {
    sections := .ofFindings (order.getD ctx.settings.statusOrder)
      (firings.filterMap Firing.finding?)
    warnings := firings.filterMap Firing.warning? }

end Scorecard
