import Scorecard.Benchmark.Selection
import Scorecard.Context
import Scorecard.Warning

/-!
# Rating the readings

Every KPI that has a figure and a selected benchmark is rated, or there is a warning that its
thresholds are incomplete.
-/

namespace Scorecard

/-- A KPI that was rated, and by what. -/
structure BenchmarkResult where
  /-- The KPI. -/
  kpiId : String
  /-- Its figure. -/
  value : Float
  /-- Its rating. -/
  rating : Rating
  /-- The direction in which figures get better. -/
  direction : Direction
  /-- The thresholds for the client's period. -/
  levels : Levels Float
  /-- The industry filter of the benchmark. -/
  industryFilter : String := "all"
  /-- The region filter of the benchmark. -/
  regionFilter : String := "all"

/-- The outcome of rating one KPI: a result, or its thresholds are incomplete. -/
abbrev Rated := Except Warning BenchmarkResult

/-- Rates a figure by a selected benchmark. -/
def Selected.rate (s : Selected) (kpiId : String) (value : Float) : Except Fault Rated := do
  let levels ← s.levels
  let b := s.benchmark
  match levels.finite?, levels.rate? b.direction value with
  | some levels, some rating =>
    return .ok ⟨kpiId, value, rating, b.direction, levels, b.industryFilter, b.regionFilter⟩
  | _, _ => return .error ⟨.benchmark, kpiId, .notRated⟩

/-- Rates one reading; nothing if it has no figure or there is no benchmark for it. -/
def Selection.rate? (selection : Selection) (reading : Reading) : Except Fault (Option Rated) :=
  match reading.value, selection.find? reading.id with
  | some value, some selected => (selected.rate reading.id value).map some
  | _, _ => .ok none

/-- What came of rating all readings. -/
structure RatingRun where
  /-- The KPIs that were rated, in the order of the readings. -/
  results : List BenchmarkResult
  /-- The warnings about the others, in the order of the readings. -/
  warnings : List Warning

namespace RatingRun

/-- The results and the warnings of KPIs that were rated one by one. -/
def ofRated (rated : List Rated) : RatingRun where
  results := rated.filterMap fun | .ok r => some r | .error _ => none
  warnings := rated.filterMap fun | .ok _ => none | .error w => some w

/-- The ratings by the ids of the KPIs. -/
def ratings (run : RatingRun) : List (String × Rating) :=
  run.results.map fun r => (r.kpiId, r.rating)

/-- The first result for a KPI. -/
def find? (run : RatingRun) (kpiId : String) : Option BenchmarkResult :=
  run.results.find? fun r => Text.lower r.kpiId = Text.fold kpiId

end RatingRun

/-- Rates all readings. -/
def Selection.rateAll (selection : Selection) (ctx : Context) : Except Fault RatingRun := do
  let rated ← ctx.readings.entries.mapM selection.rate?
  return .ofRated (rated.filterMap id)

end Scorecard
