import Scorecard.Context
import Scorecard.Text.Split

/-!
# Validation rules and checks

A validation rule has a formula `NAME:argument:argument`, whose name picks a check. A check says
what arguments it takes and compares figures; its outcome is a pass, a failure, or a skip where
figures are missing. A formula that cannot be run is a skip as well, and says why.
-/

namespace Scorecard

/-- How grave a failed rule is. -/
inductive Severity where
  /-- For information. -/
  | info
  /-- A warning. -/
  | warning
  /-- An error. -/
  | error
  /-- A critical error. -/
  | critical
  deriving DecidableEq, Repr

/-- The name of a severity. -/
def Severity.name : Severity → String
  | info => "info"
  | warning => "warning"
  | error => "error"
  | critical => "critical"

/-- Every severity. -/
def Severity.all : List Severity :=
  [info, warning, error, critical]

/-- The severity of a name. -/
def Severity.ofName? (name : String) : Option Severity :=
  all.find? (·.name = name)

/-- A validation rule. -/
structure ValidationRule where
  /-- Its id. -/
  id : String
  /-- Its name, for messages. -/
  name : String := ""
  /-- What kind of rule it is called. -/
  type : String := ""
  /-- What it checks. -/
  formula : String
  /-- How far figures that should agree may be apart, relative to their size. -/
  tolerance : Float := 0.0
  /-- How grave a failure is. -/
  severity : Severity := .warning
  /-- The template of the message for a failure. -/
  message : String := ""
  /-- The KPIs that a failure concerns. -/
  affectedKpis : List String := []
  /-- Whether the rule is run at all. -/
  active : Bool := true

/-- Why a formula cannot be run. -/
inductive FormulaError where
  /-- It has no name. -/
  | empty
  /-- No check has its name. -/
  | unknownCheck (name : String)
  /-- It has too few or too many arguments. -/
  | argumentCount (check : String) (expected : List String) (found : Nat)
  /-- An argument should be an expression and is none. -/
  | notExpression (check argument text : String)
  /-- An argument should be a number and is none. -/
  | notNumber (check argument text : String)
  deriving DecidableEq, Repr

/-- The wording of a formula error. -/
def FormulaError.message : FormulaError → String
  | empty => "Empty formula"
  | unknownCheck name => "Unknown formula type " ++ Text.quoted name
  | argumentCount check expected found =>
    check ++ " expects " ++ expected.length.repr ++ " arguments (" ++ ", ".intercalate expected ++
      "), got " ++ found.repr
  | notExpression check argument text =>
    check ++ " argument " ++ Text.quoted argument ++ " is not a valid expression: " ++
      Text.quoted text
  | notNumber check argument text =>
    check ++ " argument " ++ Text.quoted argument ++ " is not numeric: " ++ Text.quoted text

/-- What came of a check. -/
structure Outcome where
  /-- Whether there is nothing to complain of. -/
  passed : Bool
  /-- Whether there was nothing to compare. -/
  skipped : Bool := false
  /-- The figure found. -/
  actual : Option Float := none
  /-- The figure wanted. -/
  expected : Option Float := none
  /-- How far they are apart. -/
  variance : Option Float := none
  /-- Why the formula could not be run. -/
  formulaError : Option FormulaError := none

/-- The outcome where figures are missing. -/
def Outcome.skip (actual expected : Option Float) : Outcome :=
  { passed := true, skipped := true, actual, expected }

/-- The outcome of a formula that cannot be run. -/
def Outcome.malformed (e : FormulaError) : Outcome :=
  { passed := true, skipped := true, formulaError := some e }

/-- What an argument of a check has to be. -/
inductive ArgumentKind where
  /-- An expression over KPIs. -/
  | expression
  /-- A number. -/
  | number
  /-- Any text; the kind has a name of its own. -/
  | other (name : String)
  deriving DecidableEq, Repr

/-- The name of a kind of argument. -/
def ArgumentKind.name : ArgumentKind → String
  | expression => "expr"
  | number => "number"
  | other name => name

/-- The kind of argument of a name. -/
def ArgumentKind.ofName (name : String) : ArgumentKind :=
  if name = "expr" then expression else if name = "number" then number else other name

/-- A family of formulas. -/
structure Check where
  /-- The name that formulas start with. -/
  name : String
  /-- Further names. -/
  aliases : List String := []
  /-- What its arguments are called. -/
  argumentNames : List String
  /-- What its arguments have to be. -/
  argumentKinds : List ArgumentKind
  /-- What it checks, in words. -/
  description : String := ""
  /-- Runs the check on the texts of its arguments. -/
  run : Context → ValidationRule → List String → Except Fault Outcome

/-- The number of arguments of a check. -/
def Check.arity (c : Check) : Nat :=
  c.argumentNames.length

/-- How far two figures are apart, relative to the larger magnitude or to one. -/
def relativeVariance (actual expected : Float) : Float :=
  let larger := if actual.abs < expected.abs then expected.abs else actual.abs
  (actual - expected).abs / (if larger < 1.0 then 1.0 else larger)

end Scorecard
