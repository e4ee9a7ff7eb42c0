import Scorecard.Benchmark.Basic
import Scorecard.Sheet.Load

/-!
# KPI definitions and benchmarks from sheets

A format that is not known is taken for a plain number, a direction or basis that is not known
drops the benchmark, and a benchmark keeps its place without the thresholds that it lacks.
-/

namespace Scorecard

/-- Further names of formats. -/
def KpiFormat.aliases : List (String × KpiFormat) :=
  [("percent", .percentage), ("pct", .percentage), ("%", .percentage), ("money", .currency),
    ("dollars", .currency), ("$", .currency), ("multiple", .ratio), ("x", .ratio)]

/-- The format of a word in lower case. -/
def KpiFormat.ofWord? (word : String) : Option KpiFormat :=
  aliases.lookup word <|> ofName? word

/-- The KPI that a row defines. -/
def Kpi.ofRow (row : Row) : Except Fault (RowResult Kpi) := do
  match ← row.text? ["kpi_id", "id"] with
  | none => .ok (.dropped ⟨.kpi, row.ref, .noKpiId⟩)
  | some id =>
    let word := Text.lower (← row.text ["format", "type"] KpiFormat.number.name)
    let format := KpiFormat.ofWord? word
    let decimals ← row.number? ["decimals"]
    let name ← row.text ["name", "kpi_name"] ""
    .ok <| .kept
      { id, name
        format := format.getD .number
        places := decimals.map Decimal.truncate }
      (if format.isSome then [] else [⟨.kpi, id, .unknownFormat word⟩])

/-- Loads the definitions of KPIs. -/
def loadKpis (rows : List Datum) : Except Fault (Load Kpi) :=
  loadRows Kpi.ofRow rows

/-- Further names of directions. -/
def Direction.aliases : List (String × Direction) :=
  [("higher_is_better", .higher), ("ascending", .higher), ("asc", .higher),
    ("lower_is_better", .lower), ("descending", .lower), ("desc", .lower)]

/-- The direction of a word in lower case. -/
def Direction.ofWord? (word : String) : Option Direction :=
  aliases.lookup word <|> ofName? word

/-- The thresholds of a row. -/
def Row.levels (row : Row) : Except Fault (Levels (Option Float)) :=
  Levels.names.mapM fun name => row.number? [name]

/-- The levels that have no threshold. -/
def Levels.absent (levels : Levels (Option Float)) : List String :=
  (names.toList.zip levels.toList).filterMap fun (name, threshold) =>
    if threshold.isNone then some name else none

/-- The benchmark that a row gives. -/
def Benchmark.ofRow (row : Row) : Except Fault (RowResult Benchmark) := do
  let some kpiId ← row.text? ["kpi_id", "kpi"]
    | .ok (.dropped ⟨.benchmark, row.ref, .noKpiId⟩)
  let directionWord := Text.lower (← row.text ["direction"] Direction.higher.name)
  let some direction := Direction.ofWord? directionWord
    | .ok (.dropped ⟨.benchmark, kpiId, .unknownDirection directionWord⟩)
  let basisWord := Text.lower (← row.text ["period"] Basis.agnostic.name)
  let some basis := Basis.ofName? basisWord
    | .ok (.dropped ⟨.benchmark, kpiId, .unknownBasis basisWord⟩)
  let levels ← row.levels
  let industryFilter ← row.text ["industry_filter", "industry"] "all"
  let regionFilter ← row.text ["region_filter", "region", "state"] "all"
  .ok <| .kept { kpiId, industryFilter, regionFilter, levels, direction, basis }
    (levels.absent.map fun level => ⟨.benchmark, kpiId, .noThreshold level⟩)

/-- Loads benchmarks. -/
def loadBenchmarks (rows : List Datum) : Except Fault (Load Benchmark) :=
  loadRows Benchmark.ofRow rows

end Scorecard
