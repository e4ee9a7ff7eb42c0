import Scorecard.Csv
import Scorecard.Fault
import Scorecard.Json.Reader
import Scorecard.Path
import Scorecard.Schema.Basic
import Scorecard.Yaml.Reader

/-!
# Folders of a client

The files for one client stand in one folder. A sheet is a CSV file and may be missing; other data
is written in JSON or YAML.
-/

namespace Scorecard

/-- A folder and the texts of its files. -/
structure Folder where
  /-- The path of the folder. -/
  path : Path
  /-- The texts of the files by name. -/
  files : List (String × String)

/-- Why a folder does not give the inputs of an analysis. -/
inductive LoadError where
  /-- There is no folder of this kind. -/
  | unknownSource (name : String)
  /-- The file of the client is missing. -/
  | clientMissing (path : Path)
  /-- A file is not written in JSON. -/
  | notJson
  /-- A file is not written in YAML. -/
  | notYaml
  /-- The settings are no mapping. -/
  | settingsNotMapping (path : Path)
  /-- The client or the settings have faults. -/
  | invalid (errors : List SchemaError)
  /-- A sheet or the readings cannot be used. -/
  | fault (fault : Fault)
  deriving DecidableEq, Repr

/-- The wording of a load error. -/
def LoadError.message : LoadError → String
  | unknownSource name => "Unknown data source '" ++ name ++ "' (expected 'fixtures')."
  | clientMissing path => "Missing client profile: " ++ path.toText
  | notJson => "Malformed JSON"
  | notYaml => "Malformed YAML"
  | settingsNotMapping path => "Engine config must be a mapping: " ++ path.toText
  | invalid errors =>
    "; ".intercalate (errors.map fun e => e.location ++ ": " ++ e.fault.name)
  | fault f => f.message

/-- How a file is written. -/
inductive Format where
  /-- In JSON. -/
  | json
  /-- In YAML. -/
  | yaml
  deriving DecidableEq, Repr

/-- Reads a text that is written in a format. -/
def Format.read : Format → String → Except LoadError Datum
  | json, s => (Json.read? s).elim (.error .notJson) .ok
  | yaml, s => (Yaml.read? s).elim (.error .notYaml) .ok

namespace Folder

/-- The text of a file, if it is there. -/
def text? (f : Folder) (name : String) : Option String :=
  f.files.lookup name

/-- The path of a file. -/
def pathOf (f : Folder) (name : String) : Path :=
  f.path.child name

/-- The rows of a sheet; none, if it is missing. -/
def rows (f : Folder) (name : String) : List Datum :=
  (f.text? name).elim [] Csv.rows

end Folder

end Scorecard
