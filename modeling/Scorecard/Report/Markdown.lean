import Scorecard.Report.Basic
import Scorecard.Report.Stamp

/-!
# Reports in Markdown

A report as text under headings: totals, issues, ratings, the findings of each section, and the
warnings if there are any. Each part is a list of lines.
-/

namespace Scorecard

/-- A double that may be absent, as text. -/
def shownOr (x : Option Float) : String :=
  (x.map Decimal.shortestText).getD "None"

/-- The other text for an empty one. -/
def orElse (text other : String) : String :=
  if text.isEmpty then other else text

/-- The lines of an issue; its figures stand on a second line if it has any. -/
def Issue.lines (i : Issue) : List String :=
  s!"- [{i.severity.name}] {i.ruleId}: {i.message}" ::
    (if i.actual.isSome || i.expected.isSome then
      ["  - actual=" ++ shownOr i.actual ++ " expected=" ++ shownOr i.expected ++ " variance=" ++
        shownOr i.variance]
    else [])

/-- The line of a benchmark result. -/
def BenchmarkResult.line (b : BenchmarkResult) : String :=
  let levels := (Levels.names.toList.zip b.levels.toList).map fun (name, threshold) =>
    name ++ "=" ++ Decimal.shortestText threshold
  "- " ++ b.kpiId ++ ": " ++ b.rating.name ++ " (value=" ++ Decimal.shortestText b.value ++ "; " ++
    ", ".intercalate levels ++ "; " ++ b.direction.name ++ " is better; scope " ++
    b.industryFilter ++ "/" ++ b.regionFilter ++ ")"

/-- The lines of a finding, under a heading of its own. A summary or detail that is empty is left
out. -/
def Finding.lines (f : Finding) : List String :=
  ["", "### " ++ orElse f.title f.id ++ " (" ++ f.status.name ++ ")"] ++
    (if f.summary.isEmpty then [] else [f.summary]) ++
    (if f.detail.isEmpty then [] else ["", f.detail]) ++
    f.recommendations.map ("- " ++ ·)

/-- The line of a warning. -/
def Warning.line (w : Warning) : String :=
  "- " ++ w.source.name ++ " " ++ w.ref ++ ": " ++ w.cause.message

namespace Report

/-- The lines of a section. -/
def sectionLines (id : String) (findings : List Finding) : List String :=
  ["", "## Insights: " ++ orElse id "general"] ++ findings.flatMap Finding.lines

/-- The lines of a report. -/
def lines (r : Report) (stamp : Stamp) : List String :=
  ["# KPI Diagnostic " ++ orElse r.clientId stamp.runId, "", "Generated at: " ++ stamp.offsetTime,
      "", "## Totals"] ++
    r.totals.map (fun (name, n) => "- " ++ name ++ ": " ++ n.repr) ++
    ["", "## Validation issues"] ++
    (if r.issues.isEmpty then ["- None"] else r.issues.flatMap Issue.lines) ++
    ["", "## Ratings"] ++ r.benchmarks.map BenchmarkResult.line ++
    r.sections.flatMap (fun (id, findings) => sectionLines id findings) ++
    (if r.warnings.isEmpty then []
    else ["", "## Configuration warnings"] ++ r.warnings.map Warning.line)

/-- The Markdown text of a report, each line with its end. -/
def markdown (r : Report) (stamp : Stamp) : String :=
  String.join ((r.lines stamp).map (· ++ "\n"))

end Report

end Scorecard
