import Scorecard.Check.Catalog
import Scorecard.CommandLine.Basic

/-!
# The catalogue command

The command prints the catalogue of the standard checks.
-/

namespace Scorecard.CommandLine.Catalog

/-- The settings of the command. -/
def settings : List Setting :=
  [⟨"--format", ["yaml", "json"]⟩]

/-- What the command prints. -/
def output (arguments : List String) : Except Refusal String := do
  let given ← read settings arguments
  let entries := Registry.standard.catalog
  return (if (valuesOf "--format" given).getLast? = some "json" then catalogJson entries
    else catalogYaml entries) ++ "\n"

end Scorecard.CommandLine.Catalog
