import Scorecard.Insight.Basic
import Scorecard.Sheet.Load

/-!
# Rules from sheets

A validation rule keeps its place whatever its cells hold, as long as it has an id. An insight rule
needs an id, a trigger, and a kind and status that are known or not given.
-/

namespace Scorecard

/-- Further names of severities. -/
def Severity.aliases : List (String × Severity) :=
  [("low", .info), ("medium", .warning), ("warn", .warning), ("high", .error), ("block", .error)]

/-- The severity of a word in lower case. -/
def Severity.ofWord? (word : String) : Option Severity :=
  aliases.lookup word <|> ofName? word

/-- The validation rule that a row gives. -/
def ValidationRule.ofRow (defaultTolerance : Float) (row : Row) :
    Except Fault (RowResult ValidationRule) := do
  match ← row.text? ["id", "rule_id"] with
  | none => .ok (.dropped ⟨.validation, row.ref, .noRuleId⟩)
  | some id =>
    let word := Text.lower (← row.text ["severity"] Severity.warning.name)
    let severity := Severity.ofWord? word
    let tolerance ← row.number? ["tolerance"]
    let hasTolerance ← row.has ["tolerance"]
    let name ← row.text ["name"] ""
    let type ← row.text ["type"] ""
    let formula ← row.text ["formula"] ""
    let message ← row.text ["message"] ""
    let affectedKpis ← row.items ["affected_kpis"] ','
    let active ← row.flag ["active"] true
    .ok <| .kept
      { id, name, type, formula, message, affectedKpis, active
        tolerance := tolerance.getD defaultTolerance
        severity := severity.getD .warning }
      ((if severity.isSome then [] else [⟨.validation, id, .unknownSeverity word⟩]) ++
        (if tolerance.isNone && hasTolerance then [⟨.validation, id, .unreadableTolerance⟩]
        else []))

/-- Loads validation rules. -/
def loadValidationRules (defaultTolerance : Float) (rows : List Datum) :
    Except Fault (Load ValidationRule) :=
  loadRows (ValidationRule.ofRow defaultTolerance) rows

/-- The recommendations of a row: the items of one column or, if there are none, the cells of
numbered columns. -/
def Row.recommendations (row : Row) : Except Fault (List String) := do
  match ← row.items ["recommendations"] '|' with
  | [] => row.numbered "recommendation"
  | items => .ok items

/-- The word for the kind of the insight rule in a row, and the ids of its KPIs. Without a word the
kind is that of as many KPIs. -/
def InsightRule.readKind (row : Row) : Except Fault (String × List String) := do
  let kpiIds ← row.items ["kpi_ids", "kpi_id"] ','
  let default := if 1 < kpiIds.length then InsightKind.composite else .single
  (row.text ["kind"] default.name).map fun word => (word, kpiIds)

/-- The insight rule that a row gives. -/
def InsightRule.ofRow (row : Row) : Except Fault (RowResult InsightRule) := do
  let some id ← row.text? ["id", "rule_id"]
    | .ok (.dropped ⟨.insight, row.ref, .noRuleId⟩)
  let (kindWord, kpiIds) ← readKind row
  let some kind := InsightKind.ofName? (Text.lower kindWord)
    | .ok (.dropped ⟨.insight, id, .unknownKind kindWord⟩)
  let statusWord := Text.lower (← row.text ["status"] Status.warning.name)
  let some status := Status.ofName? statusWord
    | .ok (.dropped ⟨.insight, id, .unknownStatus statusWord⟩)
  let some trigger ← row.text? ["trigger"]
    | .ok (.dropped ⟨.insight, id, .noTrigger⟩)
  let recommendations ← row.recommendations
  let priority ← row.number? ["priority"]
  let hasPriority ← row.has ["priority"]
  let title ← row.text ["title"] ""
  let summary ← row.text ["summary_template", "summary"] ""
  let detail ← row.text ["detail_template", "detail"] ""
  let sectionId ← row.text ["section_id", "section"] ""
  .ok <| .kept
    { id, kind, kpiIds, trigger, title, status, summary, detail, sectionId
      advice := recommendations.take recommendationLimit
      priority := (priority.map Decimal.truncate).getD 0 }
    (if priority.isNone && hasPriority then [⟨.insight, id, .unreadablePriority⟩] else [])

/-- Loads insight rules. -/
def loadInsightRules (rows : List Datum) : Except Fault (Load InsightRule) :=
  loadRows InsightRule.ofRow rows

end Scorecard
