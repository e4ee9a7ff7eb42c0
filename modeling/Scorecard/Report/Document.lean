import Scorecard.Json.Printer
import Scorecard.Report.Basic
import Scorecard.Report.Stamp

/-!
# Reports as JSON documents

Every part of a report as a mapping, with its fields in a fixed order.
-/

namespace Scorecard

namespace Datum

/-- A mapping with names for keys. -/
def fields (entries : List (String × Datum)) : Datum :=
  record (entries.map fun (name, d) => (text name, d))

/-- A double that may be absent. -/
def optional : Option Float → Datum
  | none => null
  | some x => float x

/-- A sequence of texts. -/
def texts (items : List String) : Datum :=
  list (items.map text)

end Datum

/-- An issue as a mapping. -/
def Issue.toDatum (i : Issue) : Datum :=
  .fields [("rule_id", .text i.ruleId), ("severity", .text i.severity.name),
    ("message", .text i.message), ("expected", .optional i.expected),
    ("actual", .optional i.actual), ("variance", .optional i.variance),
    ("affected_kpis", .texts i.affectedKpis)]

/-- A benchmark result as a mapping. -/
def BenchmarkResult.toDatum (b : BenchmarkResult) : Datum :=
  .fields ([("kpi_id", .text b.kpiId), ("value", .float b.value), ("rating", .text b.rating.name),
      ("direction", .text b.direction.name)] ++
    Levels.names.toList.zip (b.levels.toList.map .float) ++
    [("industry_filter", .text b.industryFilter), ("region_filter", .text b.regionFilter)])

/-- A finding as a mapping. -/
def Finding.toDatum (f : Finding) : Datum :=
  .fields [("id", .text f.id), ("title", .text f.title), ("status", .text f.status.name),
    ("summary", .text f.summary), ("detail", .text f.detail),
    ("recommendations", .texts f.recommendations), ("section_id", .text f.sectionId),
    ("priority", .int f.priority)]

/-- A warning as a mapping. -/
def Warning.toDatum (w : Warning) : Datum :=
  .fields [("source", .text w.source.name), ("ref", .text w.ref),
    ("message", .text w.cause.message)]

namespace Report

/-- A report as a mapping. -/
def toDatum (r : Report) (stamp : Stamp) : Datum :=
  .fields [("run_id", .text stamp.runId), ("generated_at", .text stamp.zonedTime),
    ("client_id", .text r.clientId), ("issues", .list (r.issues.map Issue.toDatum)),
    ("ratings", .fields (r.ratings.map fun (id, rating) => (id, .text rating.name))),
    ("benchmarks", .list (r.benchmarks.map BenchmarkResult.toDatum)),
    ("insights", .list (r.findings.map Finding.toDatum)),
    ("sections", .fields (r.sections.map fun (id, findings) =>
      (id, .list (findings.map Finding.toDatum)))),
    ("config_warnings", .list (r.warnings.map Warning.toDatum)),
    ("totals", .fields (r.totals.map fun (name, n) => (name, .int n)))]

/-- The JSON document of a report. -/
def json (r : Report) (stamp : Stamp) : String :=
  Json.write (r.toDatum stamp)

end Report

end Scorecard
