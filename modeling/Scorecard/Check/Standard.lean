import Scorecard.Check.Basic

/-!
# The standard checks

Comparisons of two expressions, bounds of one, agreement within a tolerance, and the demand that
one figure comes with another. Each reads its arguments again from their texts; a bound that is no
number is a fault, which the arguments of an accepted formula rule out.
-/

namespace Scorecard.Check

/-- A check of one expression against another; it is skipped if one of them has no value. -/
def ofComparison (compare : ValidationRule → (left right : Float) → Outcome) :
    Context → ValidationRule → List String → Except Fault Outcome
  | ctx, rule, [leftText, rightText] =>
    match ctx.evaluate? leftText, ctx.evaluate? rightText with
    | some left, some right => .ok (compare rule left right)
    | left, right => .ok (.skip left right)
  | _, _, _ => .error .argumentMissing

/-- The outcome of a strict or weak comparison. -/
def ordered (holds : Float → Float → Bool) (_ : ValidationRule) (left right : Float) : Outcome :=
  { passed := holds left right, actual := some left, expected := some right,
    variance := some (left - right) }

/-- The outcome of a comparison within the tolerance of a rule. -/
def agreement (rule : ValidationRule) (left right : Float) : Outcome :=
  let variance := relativeVariance left right
  { passed := variance ≤ rule.tolerance, actual := some left, expected := some right,
    variance := some variance }

/-- A check of an expression against one bound; it is skipped if the expression has no value. -/
def ofBound (within : (value bound : Float) → Bool) :
    Context → ValidationRule → List String → Except Fault Outcome
  | ctx, _, [expr, boundText] =>
    match ctx.evaluate? expr, textNumber? boundText with
    | some value, some bound =>
      .ok { passed := within value bound, actual := some value, expected := some bound,
            variance := some (value - bound) }
    | some _, none => .error .numberMissing
    | none, bound => .ok (.skip none bound)
  | _, _, _ => .error .argumentMissing

/-- The outcome for a value that should lie between two bounds, both included. -/
def between (value low high : Float) : Outcome :=
  if value < low then
    { passed := false, actual := some value, expected := some low, variance := some (low - value) }
  else if high < value then
    { passed := false, actual := some value, expected := some high,
      variance := some (value - high) }
  else { passed := true, actual := some value }

/-- A check of an expression against two bounds; it is skipped if the expression has no value. -/
def inRange : Context → ValidationRule → List String → Except Fault Outcome
  | ctx, _, [expr, lowText, highText] =>
    match ctx.evaluate? expr, textNumber? lowText, textNumber? highText with
    | none, _, _ => .ok (.skip none none)
    | some value, some low, some high => .ok (between value low high)
    | some _, _, _ => .error .numberMissing
  | _, _, _ => .error .argumentMissing

/-- The demand that the second expression has a value if the first one has. It is never skipped:
without a first value it is met. -/
def required : Context → ValidationRule → List String → Except Fault Outcome
  | ctx, _, [presentText, requiredText] =>
    let present := ctx.evaluate? presentText
    let required := ctx.evaluate? requiredText
    .ok { passed := present.isNone || required.isSome, actual := present, expected := required }
  | _, _, _ => .error .argumentMissing

/-- The check `GREATER`: the first value is greater. -/
def greater : Check where
  name := "GREATER"
  aliases := ["GT"]
  argumentNames := ["kpi", "expression"]
  argumentKinds := [.expression, .expression]
  description := "Left value is strictly greater than the right-hand expression."
  run := ofComparison (ordered fun left right => right < left)

/-- The check `GTE`: the first value is greater or they are equal. -/
def greaterOrEqual : Check where
  name := "GTE"
  argumentNames := ["kpi", "expression"]
  argumentKinds := [.expression, .expression]
  description := "Left value is greater than or equal to the right-hand expression."
  run := ofComparison (ordered fun left right => right ≤ left)

/-- The check `EQUALS`: two values agree within the tolerance. -/
def equals : Check where
  name := "EQUALS"
  argumentNames := ["left", "right"]
  argumentKinds := [.expression, .expression]
  description := "Two values agree within the rule's relative tolerance."
  run := ofComparison agreement

/-- The check `RANGE`: a value lies between two bounds. -/
def range : Check where
  name := "RANGE"
  argumentNames := ["kpi", "min", "max"]
  argumentKinds := [.expression, .number, .number]
  description := "Value lies within [min, max], bounds inclusive; min may be negative."
  run := inRange

/-- The check `RATIO_MIN`: a value is on a bound or above it. -/
def ratioMin : Check where
  name := "RATIO_MIN"
  argumentNames := ["expression", "threshold"]
  argumentKinds := [.expression, .number]
  description := "Expression value is at least the threshold."
  run := ofBound fun value bound => bound ≤ value

/-- The check `RATIO_MAX`: a value is on a bound or below it. -/
def ratioMax : Check where
  name := "RATIO_MAX"
  argumentNames := ["expression", "threshold"]
  argumentKinds := [.expression, .number]
  description := "Expression value is at most the threshold."
  run := ofBound fun value bound => value ≤ bound

/-- The check `RECONCILE`: a computed value agrees with a reported one within the tolerance. -/
def reconcile : Check where
  name := "RECONCILE"
  argumentNames := ["expression", "target"]
  argumentKinds := [.expression, .expression]
  description := "Computed expression reconciles to a reported KPI within a relative tolerance."
  run := ofComparison agreement

/-- The check `REQUIRES`: where there is a first value there is a second one. -/
def requires : Check where
  name := "REQUIRES"
  argumentNames := ["kpi", "required"]
  argumentKinds := [.expression, .expression]
  description := "When the first KPI is reported, the second must be reported too."
  run := required

/-- The standard checks. -/
def standard : List Check :=
  [greater, greaterOrEqual, equals, range, ratioMin, ratioMax, reconcile, requires]

end Scorecard.Check
