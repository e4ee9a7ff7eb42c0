import Scorecard.Client
import Scorecard.Expr.Parser
import Scorecard.Figure
import Scorecard.Status

/-!
# Settings

What can be tuned in the engine for all clients alike.
-/

namespace Scorecard

/-- The number of recommendations that a finding may have. -/
def recommendationLimit : Nat := 5

/-- The settings of the engine. -/
structure Settings where
  /-- What annual thresholds are divided by, for each reporting period. -/
  periodDivisors : List (Period × Float) := [(.monthly, 12.0), (.quarterly, 4.0), (.annual, 1.0)]
  /-- How many signs and parentheses may stand around a part of an expression. -/
  maxDepth : Int := Expr.defaultDepth
  /-- How many recommendations a finding shows. -/
  maxRecommendations : Int := recommendationLimit
  /-- The tolerance of a validation rule that gives none. -/
  defaultTolerance : Float := 0.0
  /-- The order of findings in a section. -/
  statusOrder : StatusOrder := StatusOrder.default
  /-- How figures are shown. -/
  style : Figure.Style := {}

/-- The divisor of a reporting period; one, if none is set. -/
def Settings.divisor (s : Settings) (period : Period) : Float :=
  (s.periodDivisors.lookup period).getD 1.0

end Scorecard
