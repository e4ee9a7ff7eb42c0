import Scorecard.CommandLine.Catalog
import Scorecard.CommandLine.Diagnosis
import Std.Time

/-!
# The program

The first word of the command line may be `catalog`, which prints the catalogue of checks; all
other command lines ask for a diagnosis. Files are read and written here, and here only.
-/

namespace Scorecard.CommandLine

/-- How a command line should be. -/
def usage : String :=
  "usage: scorecard --fixtures-dir DIR [--output-dir DIR] [--format all|json|md]\n" ++
    "                 [--rule-id ID]... [--log-level DEBUG|INFO|WARNING|ERROR]\n" ++
    "       scorecard catalog [--format yaml|json]"

/-- Tells how a command line should be, and gives the exit code. -/
def refuse : Refusal → IO UInt32
  | .help => do
    IO.println usage
    return 0
  | .misuse => do
    IO.eprintln usage
    return 2

/-- The text of a file, if it is there. -/
def readIfThere (path : Path) : IO (Option String) := do
  match ← (IO.FS.readFile path.toText).toBaseIO with
  | .ok text => return some text
  | .error (.noFileOrDirectory ..) => return none
  | .error e => throw e

/-- The files of a folder. -/
def readFolder (path : Path) : IO (List (String × String)) :=
  Folder.fileNames.filterMapM fun name => do
    return (← readIfThere (path.child name)).map (name, ·)

/-- The stamp of a report that is made now. -/
def stampNow : IO Stamp := do
  let bytes ← IO.getRandomBytes 16
  let now := Std.Time.DateTime.ofTimestampWithZone (← Std.Time.Timestamp.now) .UTC
  return .of bytes.toList (now.toPlainDateTime.format "uuuu-MM-dd'T'HH:mm:ss.SSSSSS")

/-- Carries out a diagnosis, and gives the exit code. The folder of the report is made if it is not
there. -/
def diagnose (d : Diagnosis) : IO UInt32 := do
  IO.FS.createDirAll d.output.toText
  match d.report (← readFolder d.folder) with
  | .error e => do
    IO.eprintln e.message
    return 1
  | .ok report => do
    for output in d.outputs report (← stampNow) do
      IO.FS.writeFile output.path.toText output.text
      IO.println output.notice
    return 0

end Scorecard.CommandLine

open Scorecard Scorecard.CommandLine in
/-- Runs the command that the arguments ask for. -/
def main (arguments : List String) : IO UInt32 := do
  match arguments with
  | "catalog" :: rest =>
    match Catalog.output rest with
    | .error refusal => refuse refusal
    | .ok text => do
      IO.print text
      return 0
  | _ =>
    match Diagnosis.ofArguments (.ofText (toString (← IO.currentDir))) arguments with
    | .error refusal => refuse refusal
    | .ok d => diagnose d
