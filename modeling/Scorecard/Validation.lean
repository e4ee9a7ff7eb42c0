import Scorecard.Check.Execution
import Scorecard.Warning

/-!
# Validation

The active rules are run one by one. A failure becomes an issue with a message, a formula that
cannot be run becomes a warning, and every rule is counted once.
-/

namespace Scorecard

/-- A failed rule. -/
structure Issue where
  /-- The rule. -/
  ruleId : String
  /-- How grave it is. -/
  severity : Severity
  /-- What to tell. -/
  message : String
  /-- The figure wanted. -/
  expected : Option Float
  /-- The figure found. -/
  actual : Option Float
  /-- How far they are apart. -/
  variance : Option Float
  /-- The KPIs concerned. -/
  affectedKpis : List String

namespace ValidationRule

/-- The name under which a rule is shown. -/
def displayName (rule : ValidationRule) : String :=
  if rule.name.isEmpty then rule.id else rule.name

/-- A figure that may be absent, rounded. -/
def figure (x : Option Float) (places : Int) : Except Fault Datum :=
  match x with
  | none => .ok .null
  | some x => (Figure.rounded x places).map .text

/-- The fields that the message of a rule may show beside those of the client. -/
def messageFields (rule : ValidationRule) (outcome : Outcome) (ctx : Context) :
    Except Fault Fields := do
  let places := ctx.settings.style.valuePlaces
  let actual ← figure outcome.actual places
  let expected ← figure outcome.expected places
  let variance ← figure outcome.variance 4
  let percent ← figure (outcome.variance.map (· * 100.0)) 1
  let tolerance ← Figure.rounded rule.tolerance 4
  return ctx.client.fields.update
    [("rule_name", .text rule.displayName), ("actual", actual), ("expected", expected),
      ("variance", variance),
      ("variance_pct", match percent with
        | .text s => .text (s ++ "%")
        | d => d),
      ("tolerance", .text tolerance)]

/-- The issue of a failed rule. Without a message it is told by the rule's name or id. -/
def issue (rule : ValidationRule) (outcome : Outcome) (ctx : Context) : Except Fault Issue := do
  let fields ← rule.messageFields outcome ctx
  let message := Text.trim (Template.render rule.message fields.text?)
  return {
    ruleId := rule.id
    severity := rule.severity
    message := if message.isEmpty then rule.displayName else message
    expected := outcome.expected
    actual := outcome.actual
    variance := outcome.variance
    affectedKpis := rule.affectedKpis }

end ValidationRule

/-- How often rules came to each end. -/
structure Counts where
  /-- Rules that passed. -/
  passed : Nat := 0
  /-- Rules that failed. -/
  failed : Nat := 0
  /-- Rules that were skipped. -/
  skipped : Nat := 0
  /-- Rules that are not active. -/
  inactive : Nat := 0
  deriving DecidableEq, Repr

/-- What came of one rule. -/
inductive RuleResult where
  /-- It is not active. -/
  | inactive
  /-- It passed or was skipped. -/
  | clear (rule : ValidationRule) (outcome : Outcome)
  /-- It failed. -/
  | failed (rule : ValidationRule) (outcome : Outcome) (issue : Issue)

namespace RuleResult

/-- The rule and its outcome, if it was run. -/
def outcome? : RuleResult → Option (String × Outcome)
  | inactive => none
  | clear rule outcome | failed rule outcome _ => some (rule.id, outcome)

/-- The issue, if it failed. -/
def issue? : RuleResult → Option Issue
  | failed _ _ issue => some issue
  | _ => none

/-- The warning, if its formula could not be run. -/
def warning? (r : RuleResult) : Option Warning := do
  let (ruleId, outcome) ← r.outcome?
  let e ← outcome.formulaError
  some ⟨.validation, ruleId, .formula e⟩

/-- The counts with one more rule. -/
def count (c : Counts) : RuleResult → Counts
  | inactive => { c with inactive := c.inactive + 1 }
  | clear _ outcome =>
    if outcome.skipped then { c with skipped := c.skipped + 1 }
    else { c with passed := c.passed + 1 }
  | failed _ _ _ => { c with failed := c.failed + 1 }

end RuleResult

/-- Runs one rule. -/
def ValidationRule.result (rule : ValidationRule) (ctx : Context) (registry : Registry) :
    Except Fault RuleResult := do
  if !rule.active then return .inactive
  let outcome ← rule.execute ctx registry
  if outcome.skipped || outcome.passed then return .clear rule outcome
  return .failed rule outcome (← rule.issue outcome ctx)

/-- What came of all rules, in their order. -/
structure ValidationRun where
  /-- The failures. -/
  issues : List Issue
  /-- The outcomes of the rules that were run. -/
  outcomes : List (String × Outcome)
  /-- The formulas that could not be run. -/
  warnings : List Warning
  /-- How often rules came to each end. -/
  counts : Counts

/-- The run of rules that were run one by one. -/
def ValidationRun.ofResults (results : List RuleResult) : ValidationRun where
  issues := results.filterMap RuleResult.issue?
  outcomes := results.filterMap RuleResult.outcome?
  warnings := results.filterMap RuleResult.warning?
  counts := results.foldl RuleResult.count {}

/-- The rules with one of the given ids; all rules, if none are given. -/
def selectRules (rules : List ValidationRule) : Option (List String) → List ValidationRule
  | none => rules
  | some ids => rules.filter fun rule => ids.contains rule.id

/-- Runs the rules, or those of them with one of the given ids. -/
def validate (rules : List ValidationRule) (ctx : Context) (ids : Option (List String))
    (registry : Registry) : Except Fault ValidationRun := do
  let results ← (selectRules rules ids).mapM (·.result ctx registry)
  return .ofResults results

end Scorecard
