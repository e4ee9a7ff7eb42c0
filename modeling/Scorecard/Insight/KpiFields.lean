import Scorecard.Insight.Basic

/-!
# The fields of a rated KPI

Nine fields tell a rated KPI: its figure as it is, rounded, and written in its format, its rating
and name, and its four thresholds. Each has a plain name for rules on one KPI, and a stem that
follows the KPI's id for rules on several.
-/

namespace Scorecard

/-- The fields of a rated KPI. -/
inductive KpiField where
  /-- The figure. -/
  | value
  /-- The figure, rounded. -/
  | rounded
  /-- The figure in the KPI's format. -/
  | formatted
  /-- The rating. -/
  | rating
  /-- The name. -/
  | name
  /-- The lowest threshold. -/
  | poor
  /-- The second threshold. -/
  | average
  /-- The third threshold. -/
  | good
  /-- The highest threshold. -/
  | excellent
  deriving DecidableEq, Repr

namespace KpiField

/-- All fields, in the order in which they are listed. -/
def all : List KpiField :=
  [value, rounded, formatted, rating, name, poor, average, good, excellent]

/-- The plain name of a field. -/
def plainName : KpiField → String
  | value => "value"
  | rounded => "value_rounded"
  | formatted => "value_formatted"
  | rating => "rating"
  | name => "kpi_name"
  | poor => "benchmark_poor"
  | average => "benchmark_average"
  | good => "benchmark_good"
  | excellent => "benchmark_excellent"

/-- The part of a field's name that follows the id of a KPI. -/
def stem : KpiField → String
  | value => "value"
  | rounded => "rounded"
  | formatted => "formatted"
  | rating => "rating"
  | name => "name"
  | poor => "benchmark_poor"
  | average => "benchmark_average"
  | good => "benchmark_good"
  | excellent => "benchmark_excellent"

/-- The name of a field of the KPI with the given id. -/
def nameFor (kpiId : String) (field : KpiField) : String :=
  kpiId ++ "_" ++ field.stem

/-- The content of a field. -/
def content (result : BenchmarkResult) (kpi : Kpi) (style : Figure.Style) :
    KpiField → Except Fault Datum
  | value => .ok (.float result.value)
  | rounded => (Figure.rounded result.value style.valuePlaces).map .text
  | formatted => (Figure.format style kpi result.value).map .text
  | rating => .ok (.text result.rating.name)
  | name => .ok (.text kpi.displayName)
  | poor => (Figure.format style kpi result.levels.poor).map .text
  | average => (Figure.format style kpi result.levels.average).map .text
  | good => (Figure.format style kpi result.levels.good).map .text
  | excellent => (Figure.format style kpi result.levels.excellent).map .text

/-- The fields of a rated KPI, under the names that `naming` gives them. -/
def fields (naming : KpiField → String) (result : BenchmarkResult) (kpi : Kpi)
    (style : Figure.Style) : Except Fault Fields :=
  all.mapM fun field => (field.content result kpi style).map (naming field, ·)

end KpiField

/-- The fields of a rated KPI under their plain names or, where an id is given, under names that
start with it. -/
def BenchmarkResult.fields (result : BenchmarkResult) (kpi : Kpi) (style : Figure.Style)
    (prefixId : String) : Except Fault Fields :=
  KpiField.fields (if prefixId.isEmpty then KpiField.plainName else KpiField.nameFor prefixId)
    result kpi style

end Scorecard
