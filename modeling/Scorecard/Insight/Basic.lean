import Scorecard.Benchmark.Run
import Scorecard.Trigger

/-!
# Insight rules and findings

An insight rule is a trigger and templates; where the trigger fires, the templates are rendered
into a finding. What the templates may show depends on the rule: a rule on a single KPI shows that
KPI's fields under plain names, and a rule on several shows the fields of each under names that
start with its id.
-/

namespace Scorecard

/-- Whether an insight rule is about one KPI or several. -/
inductive InsightKind where
  /-- About one. -/
  | single
  /-- About several. -/
  | composite
  deriving DecidableEq, Repr

/-- The name of a kind of insight. -/
def InsightKind.name : InsightKind → String
  | single => "single"
  | composite => "composite"

/-- Every kind of insight. -/
def InsightKind.all : List InsightKind :=
  [single, composite]

/-- The kind of insight of a name. -/
def InsightKind.ofName? (name : String) : Option InsightKind :=
  all.find? (·.name = name)

/-- An insight rule. -/
structure InsightRule where
  /-- Its id. -/
  id : String
  /-- Whether it is about one KPI or several. -/
  kind : InsightKind := .single
  /-- The KPIs that it is about. -/
  kpiIds : List String := []
  /-- When it fires. -/
  trigger : String
  /-- The template of the title. -/
  title : String := ""
  /-- What kind of news it is. -/
  status : Status := .warning
  /-- The template of the summary. -/
  summary : String := ""
  /-- The template of the detail. -/
  detail : String := ""
  /-- The templates of recommendations, as they were given. -/
  advice : List String := []
  /-- The section of the report. -/
  sectionId : String := ""
  /-- The place in the section among findings of one status; a lower one comes first. -/
  priority : Int := 0
  deriving DecidableEq, Repr

namespace InsightRule

/-- The recommendations of a rule: of those given, the first that are not blank. -/
def recommendations (rule : InsightRule) : List String :=
  (rule.advice.filter fun s => !Text.isBlank s).take recommendationLimit

/-- The clauses that a rule's trigger stands for. A condition alone is about the rule's first
KPI. -/
def clauses (rule : InsightRule) : Except TriggerError (List Clause) :=
  if rule.kind = .composite || rule.trigger.toList.contains ':' then Trigger.parse rule.trigger
  else
    match rule.kpiIds with
    | [] => .error .noKpi
    | kpiId :: _ => (Condition.parse rule.trigger).map fun c => [⟨kpiId, c⟩]

end InsightRule

/-- A finding. -/
structure Finding where
  /-- The rule that fired. -/
  id : String
  /-- The title. -/
  title : String
  /-- What kind of news it is. -/
  status : Status
  /-- The summary. -/
  summary : String := ""
  /-- The detail. -/
  detail : String := ""
  /-- What to do. -/
  recommendations : List String := []
  /-- The section of the report. -/
  sectionId : String := ""
  /-- The place in the section among findings of one status. -/
  priority : Int := 0
  deriving DecidableEq, Repr

end Scorecard
