import Scorecard.Folder.Basic
import Scorecard.Inputs
import Scorecard.Schema.Settings

/-!
# Loading the inputs of a client

The client has to be there; settings, sheets and readings may be missing. The files are read one
after the other: client, settings, the sheets of the configuration, readings. The first one that
cannot be used ends the loading.
-/

namespace Scorecard

namespace Folder

/-- The file of the client. -/
def clientFile : String := "client.json"

/-- The files that may hold the settings; the first one that is there is read. -/
def settingsFiles : List (String × Format) :=
  [("engine.yaml", .yaml), ("engine.yml", .yaml), ("engine.json", .json)]

/-- The sheet of the KPIs. -/
def kpiSheet : String := "kpis.csv"

/-- The sheet of the validation rules. -/
def validationSheet : String := "validation_rules.csv"

/-- The sheet of the benchmarks. -/
def benchmarkSheet : String := "benchmarks.csv"

/-- The sheet of the insight rules. -/
def insightSheet : String := "insight_rules.csv"

/-- The file of the readings. -/
def readingsFile : String := "values.json"

/-- The sheet of the readings, which is read if their file is missing. -/
def readingsSheet : String := "values.csv"

/-- The names of all files. -/
def fileNames : List String :=
  [clientFile, kpiSheet, validationSheet, benchmarkSheet, insightSheet, readingsFile,
    readingsSheet] ++ settingsFiles.map (·.1)

/-- The client. -/
def client (f : Folder) : Except LoadError Client :=
  match f.text? clientFile with
  | none => .error (.clientMissing (f.pathOf clientFile))
  | some text => do (Client.ofDatum (← Format.json.read text)).mapError .invalid

/-- The settings. -/
def settings (f : Folder) : Except LoadError Settings :=
  match settingsFiles.find? fun (name, _) => (f.text? name).isSome with
  | none => .ok {}
  | some (name, format) => do
    match ← format.read ((f.text? name).getD "") with
    | .null => return {}
    | .record fields => (Settings.ofFields fields).mapError .invalid
    | _ => throw (.settingsNotMapping (f.pathOf name))

/-- The sheets of the configuration. -/
def sheets (f : Folder) : Sheets where
  kpis := f.rows kpiSheet
  validationRules := f.rows validationSheet
  benchmarks := f.rows benchmarkSheet
  insightRules := f.rows insightSheet

/-- The data of the readings. -/
def readingsData (f : Folder) : Except LoadError Datum :=
  match f.text? readingsFile with
  | some text => Format.json.read text
  | none => .ok (.list (f.rows readingsSheet))

/-- The inputs of the analysis of the client. -/
def load (f : Folder) : Except LoadError Inputs := do
  let client ← f.client
  let settings ← f.settings
  let definitions ← (f.sheets.load settings).mapError .fault
  let readings ← (Readings.ofDatum (← f.readingsData)).mapError .fault
  return .ofDefinitions definitions client settings readings

/-- The kinds of folders, by the names that they go by. -/
def sourceNames : List String := ["fixtures", ""]

/-- The inputs from a folder of a named kind. -/
def loadFrom (source : String) (f : Folder) : Except LoadError Inputs :=
  if sourceNames.contains (Text.fold source) then f.load else .error (.unknownSource source)

end Folder

end Scorecard
