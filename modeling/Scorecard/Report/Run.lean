import Scorecard.Configuration
import Scorecard.Report.Basic

/-!
# Analysis

An analysis validates the readings of a client, rates them by the benchmarks selected for the
client, and draws the findings from the ratings. The three stages run in this order, and the first
fault ends the analysis. A whole analysis starts from the values of a client as they are given, a
mapping from ids to data, and from the definitions of KPIs as they are listed.
-/

namespace Scorecard

/-- Analyses the readings of a client. Only validation rules with one of the given ids are run, if
ids are given; findings are sorted by the given order, or else by that of the settings. -/
def Context.analyse (ctx : Context) (config : Configuration) (ids : Option (List String))
    (order : Option StatusOrder) : Except Fault Report := do
  let validation ← validate config.validationRules ctx ids .standard
  let rating ← (Selection.build config.benchmarks ctx.client ctx.settings).rateAll ctx
  let insight ← findInsights config.insightRules ctx
    (RatingLookup.of rating.ratings rating.results) order
  return {
    clientId := ctx.client.id
    counts := validation.counts
    issues := validation.issues
    benchmarks := rating.results
    sections := insight.sections
    warnings := validation.warnings ++ rating.warnings ++ insight.warnings }

/-- The context of the values of a client. -/
def Context.ofValues (values : List (String × Datum)) (client : Client) (settings : Settings)
    (kpis : List Kpi) : Except Fault Context :=
  (Readings.ofEntries values).map fun readings =>
    { readings, client, settings, kpis := indexKpis kpis }

/-- Analyses the values of a client. -/
def analyseValues (values : List (String × Datum)) (client : Client) (settings : Settings)
    (kpis : List Kpi) (config : Configuration) (ids : Option (List String))
    (order : Option StatusOrder) : Except Fault Report := do
  let ctx ← Context.ofValues values client settings kpis
  ctx.analyse config ids order

end Scorecard
