import Scorecard.Check.Registry

/-!
# Running formulas

A formula is split at its colons. The first part names a check, which has to exist, to take as
many arguments as follow, and to find each of them to be of its kind; otherwise the rule is skipped
with a reason. Then the check runs.
-/

namespace Scorecard

namespace Formula

/-- The name of a formula, in upper case, and its arguments, all without white space around. -/
def split (formula : String) : String × List String :=
  match (Text.split ':' formula).map Text.trim with
  | [] => ("", [])
  | name :: arguments => (Text.upper name, arguments)

/-- What is wrong with one argument of a check, if anything is. -/
def argumentError? (limit : Int) (check : Check) (name : String) (kind : ArgumentKind)
    (text : String) : Option FormulaError :=
  match kind with
  | .expression =>
    if Expr.isValid text limit then none else some (.notExpression check.name name text)
  | .number =>
    if (textNumber? text).isSome then none else some (.notNumber check.name name text)
  | .other _ => none

/-- What is wrong with the first argument of a check that is not of its kind. -/
def firstError? (limit : Int) (check : Check) : List String → List ArgumentKind → List String →
    Option FormulaError
  | name :: names, kind :: kinds, text :: texts =>
    argumentError? limit check name kind text <|> firstError? limit check names kinds texts
  | _, _, _ => none

/-- The check that a formula calls and its arguments, or what is wrong with it. -/
def resolve (registry : Registry) (limit : Int) (formula : String) :
    Except FormulaError (Check × List String) :=
  let (name, arguments) := split formula
  if name.isEmpty then .error .empty
  else
    match registry.find? name with
    | none => .error (.unknownCheck name)
    | some check =>
      if arguments.length ≠ check.arity then
        .error (.argumentCount check.name check.argumentNames arguments.length)
      else
        match firstError? limit check check.argumentNames check.argumentKinds arguments with
        | some e => .error e
        | none => .ok (check, arguments)

end Formula

/-- The outcome of a validation rule. -/
def ValidationRule.execute (rule : ValidationRule) (ctx : Context) (registry : Registry) :
    Except Fault Outcome :=
  match Formula.resolve registry ctx.settings.maxDepth rule.formula with
  | .error e => .ok (.malformed e)
  | .ok (check, arguments) => check.run ctx rule arguments

end Scorecard
