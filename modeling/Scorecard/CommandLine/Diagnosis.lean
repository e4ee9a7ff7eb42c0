import Scorecard.CommandLine.Basic
import Scorecard.Folder.Load
import Scorecard.Report.Document
import Scorecard.Report.Markdown

/-!
# The diagnosis command

The command analyses the client of one folder and writes the report, in JSON, in Markdown or in
both, to the same folder or to another one.
-/

namespace Scorecard.CommandLine

/-- What a diagnosis is wanted of. -/
structure Diagnosis where
  /-- The folder of the client. -/
  folder : Path
  /-- The folder of the report. -/
  output : Path
  /-- Whether the report is written in JSON. -/
  json : Bool
  /-- Whether the report is written in Markdown. -/
  markdown : Bool
  /-- The validation rules to run; all of them, if none are named. -/
  ruleIds : Option (List String)
  deriving DecidableEq, Repr

/-- A file of a report. -/
structure Output where
  /-- Where it goes. -/
  path : Path
  /-- What is in it. -/
  text : String
  deriving DecidableEq, Repr

/-- What is told of a file that was written. -/
def Output.notice (o : Output) : String :=
  "Wrote " ++ o.path.toText

namespace Diagnosis

/-- The settings of the command. The level of logging changes nothing, since nothing is logged. -/
def settings : List Setting :=
  [⟨"--fixtures-dir", []⟩, ⟨"--output-dir", []⟩, ⟨"--format", ["all", "json", "md"]⟩,
    ⟨"--rule-id", []⟩, ⟨"--log-level", ["DEBUG", "INFO", "WARNING", "ERROR"]⟩]

/-- The diagnosis that a command line asks for, with paths taken from the folder one is in. The
folder of the client has to be given; of several values for one setting the last holds. -/
def ofArguments (here : Path) (arguments : List String) : Except Refusal Diagnosis := do
  let given ← read settings arguments
  let last? (name : String) : Option String := (valuesOf name given).getLast?
  let path (text : String) : Path := (here.join (.ofText text)).straight
  let some dir := last? "--fixtures-dir" | throw .misuse
  let format := (last? "--format").getD "all"
  let ruleIds := valuesOf "--rule-id" given
  return {
    folder := path dir
    output := match last? "--output-dir" with
      | none | some "" => path dir
      | some output => path output
    json := format ≠ "md"
    markdown := format ≠ "json"
    ruleIds := if ruleIds.isEmpty then none else some ruleIds }

/-- The name of a report, without its ending: by the client's id or, without one, by the folder. -/
def reportName (d : Diagnosis) (report : Report) : String :=
  "kpi_diagnostic_" ++ orElse report.clientId d.folder.lastName

/-- The files of a report. -/
def outputs (d : Diagnosis) (report : Report) (stamp : Stamp) : List Output :=
  let output (ending text : String) : Output :=
    ⟨d.output.child (d.reportName report ++ ending), text⟩
  (if d.json then [output ".json" (report.json stamp)] else []) ++
    (if d.markdown then [output ".md" (report.markdown stamp)] else [])

/-- The report on the client of a folder. -/
def report (d : Diagnosis) (files : List (String × String)) : Except LoadError Report := do
  let inputs ← (Folder.mk d.folder files).load
  (inputs.report d.ruleIds).mapError .fault

end Diagnosis

end Scorecard.CommandLine
