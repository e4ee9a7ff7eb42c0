/-!
# Clients

The client whose figures are analysed. Industry and region choose the benchmarks that apply, the
reporting period says what part of a year the figures cover.
-/

namespace Scorecard

/-- The part of a year that a client's figures cover. -/
inductive Period where
  /-- One month. -/
  | monthly
  /-- Three months. -/
  | quarterly
  /-- A whole year. -/
  | annual
  deriving DecidableEq, Repr

/-- The name of a period. -/
def Period.name : Period → String
  | monthly => "monthly"
  | quarterly => "quarterly"
  | annual => "annual"

/-- Every period. -/
def Period.all : List Period :=
  [monthly, quarterly, annual]

/-- The period of a name. -/
def Period.ofName? (name : String) : Option Period :=
  all.find? (·.name = name)

/-- The client of an analysis. -/
structure Client where
  /-- An id, which names the report. -/
  id : String := ""
  /-- The name that findings use. -/
  companyName : String := ""
  /-- The industry, for benchmarks and findings. -/
  industry : String := ""
  /-- The region, for benchmarks; findings call it the state. -/
  region : String := ""
  /-- The reporting period. -/
  period : Period := .annual
  deriving DecidableEq, Repr

end Scorecard
