import Scorecard.Insight.Run
import Scorecard.Validation

/-!
# Reports

What one analysis found: the issues of validation, the benchmark results, the findings in their
sections, and the warnings about the configuration. Ratings, the flat list of findings and the
totals are read off these.
-/

namespace Scorecard

/-- A report. -/
structure Report where
  /-- The client's id. -/
  clientId : String
  /-- How often validation rules came to each end. -/
  counts : Counts
  /-- The validation rules that failed. -/
  issues : List Issue
  /-- The KPIs that were rated. -/
  benchmarks : List BenchmarkResult
  /-- The findings in their sections. -/
  sections : Sections
  /-- The warnings about the configuration. -/
  warnings : List Warning

namespace Report

/-- The ratings by the ids of the KPIs. -/
def ratings (r : Report) : List (String × Rating) :=
  r.benchmarks.map fun b => (b.kpiId, b.rating)

/-- The findings, section by section. -/
def findings (r : Report) : List Finding :=
  r.sections.findings

/-- How many there are of everything. -/
def totals (r : Report) : List (String × Nat) :=
  [("passed", r.counts.passed), ("failed", r.counts.failed), ("skipped", r.counts.skipped),
    ("inactive", r.counts.inactive), ("issues", r.issues.length), ("rated", r.ratings.length),
    ("insights", r.findings.length)]

/-- The report with further warnings before its own. -/
def withWarnings (r : Report) (warnings : List Warning) : Report :=
  { r with warnings := warnings ++ r.warnings }

end Report

end Scorecard
