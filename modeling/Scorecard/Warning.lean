import Scorecard.Check.Basic
import Scorecard.Trigger

/-!
# Warnings about the configuration

What is wrong with a row of the configuration, or with a rule or a benchmark when it is applied,
is reported beside the results. A warning names the part of the configuration, the row, rule or KPI
it is about, and its cause.
-/

namespace Scorecard

/-- The parts of the configuration. -/
inductive Source where
  /-- The definitions of KPIs. -/
  | kpi
  /-- The validation rules. -/
  | validation
  /-- The benchmarks. -/
  | benchmark
  /-- The insight rules. -/
  | insight
  deriving DecidableEq, Repr

/-- The name of a part of the configuration. -/
def Source.name : Source → String
  | kpi => "kpi"
  | validation => "validation"
  | benchmark => "benchmark"
  | insight => "insight"

/-- What a warning complains of. -/
inductive Cause where
  /-- A row without the id of a KPI, which is dropped. -/
  | noKpiId
  /-- A row without the id of a rule, which is dropped. -/
  | noRuleId
  /-- An insight row without a trigger, which is dropped. -/
  | noTrigger
  /-- A direction that there is not, in a row that is dropped. -/
  | unknownDirection (text : String)
  /-- A basis that there is not, in a row that is dropped. -/
  | unknownBasis (text : String)
  /-- A kind of insight that there is not, in a row that is dropped. -/
  | unknownKind (text : String)
  /-- A status that there is not, in a row that is dropped. -/
  | unknownStatus (text : String)
  /-- A format that there is not, in a row that is kept. -/
  | unknownFormat (text : String)
  /-- A severity that there is not, in a row that is kept. -/
  | unknownSeverity (text : String)
  /-- A tolerance that is no number, in a row that is kept. -/
  | unreadableTolerance
  /-- A priority that is no number, in a row that is kept. -/
  | unreadablePriority
  /-- A threshold that is missing or no number, in a row that is kept. -/
  | noThreshold (level : String)
  /-- A KPI that is not rated, because a threshold is missing. -/
  | notRated
  /-- A validation rule that is skipped, because of its formula. -/
  | formula (error : FormulaError)
  /-- An insight rule that never fires, because of its trigger. -/
  | trigger (error : TriggerError)
  deriving DecidableEq, Repr

/-- Whether the row that a cause is found in is dropped. -/
def Cause.drops : Cause → Bool
  | noKpiId | noRuleId | noTrigger | unknownDirection _ | unknownBasis _ | unknownKind _
  | unknownStatus _ => true
  | _ => false

/-- The wording of a cause. -/
def Cause.message : Cause → String
  | noKpiId => "Row has no kpi_id; dropped."
  | noRuleId => "Row has no rule id; dropped."
  | noTrigger => "Row has no trigger; dropped."
  | unknownDirection text => "Unknown direction " ++ Text.quoted text ++ "; row dropped."
  | unknownBasis text => "Unknown period " ++ Text.quoted text ++ "; row dropped."
  | unknownKind text => "Unknown kind " ++ Text.quoted text ++ "; row dropped."
  | unknownStatus text => "Unknown status " ++ Text.quoted text ++ "; row dropped."
  | unknownFormat text => "Unknown format " ++ Text.quoted text ++ "; using number."
  | unknownSeverity text => "Unknown severity " ++ Text.quoted text ++ "; using warning."
  | unreadableTolerance => "Non-numeric tolerance; using the default."
  | unreadablePriority => "Non-numeric priority; using 0."
  | noThreshold level => "Threshold " ++ Text.quoted level ++ " is missing or non-numeric."
  | notRated => "Benchmark row has missing or non-numeric thresholds; KPI not rated."
  | formula error => error.message
  | trigger error => error.message

/-- A complaint about the configuration. -/
structure Warning where
  /-- The part of the configuration. -/
  source : Source
  /-- The row, rule or KPI. -/
  ref : String
  /-- What is wrong. -/
  cause : Cause
  deriving DecidableEq, Repr

end Scorecard
