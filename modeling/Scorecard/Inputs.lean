import Scorecard.Report.Run
import Scorecard.Sheet.Definitions
import Scorecard.Sheet.Readings
import Scorecard.Sheet.Rules

/-!
# The inputs of an analysis

The sheets of the configuration are loaded one after the other, and what is wrong with their rows
is reported together with what the analysis finds.
-/

namespace Scorecard

/-- The sheets of a configuration, each a list of rows. -/
structure Sheets where
  /-- The definitions of KPIs. -/
  kpis : List Datum := []
  /-- The validation rules. -/
  validationRules : List Datum := []
  /-- The benchmarks. -/
  benchmarks : List Datum := []
  /-- The insight rules. -/
  insightRules : List Datum := []

/-- What the sheets of a configuration define. -/
structure Definitions where
  /-- The KPIs. -/
  kpis : List Kpi
  /-- The rules and benchmarks. -/
  configuration : Configuration
  /-- What is wrong with the rows. -/
  warnings : List Warning

/-- Loads the sheets of a configuration. Rules without a tolerance take that of the settings. -/
def Sheets.load (sheets : Sheets) (settings : Settings) : Except Fault Definitions := do
  let kpis ← loadKpis sheets.kpis
  let validationRules ← loadValidationRules settings.defaultTolerance sheets.validationRules
  let benchmarks ← loadBenchmarks sheets.benchmarks
  let insightRules ← loadInsightRules sheets.insightRules
  return {
    kpis := kpis.items
    configuration :=
      { validationRules := validationRules.items, benchmarks := benchmarks.items,
        insightRules := insightRules.items }
    warnings := kpis.warnings ++ validationRules.warnings ++ benchmarks.warnings ++
      insightRules.warnings }

/-- What one analysis starts from. -/
structure Inputs where
  /-- What its rules may read. -/
  context : Context
  /-- The rules and benchmarks. -/
  configuration : Configuration
  /-- What is wrong with the configuration. -/
  warnings : List Warning

namespace Inputs

/-- The inputs for a client by what is defined. -/
def ofDefinitions (d : Definitions) (client : Client) (settings : Settings)
    (readings : Readings) : Inputs where
  context := { readings, client, settings, kpis := Context.indexKpis d.kpis }
  configuration := d.configuration
  warnings := d.warnings

/-- The report on the inputs; the warnings about the configuration come first. -/
def report (inputs : Inputs) (ids : Option (List String)) : Except Fault Report :=
  (inputs.context.analyse inputs.configuration ids none).map (·.withWarnings inputs.warnings)

end Inputs

end Scorecard
