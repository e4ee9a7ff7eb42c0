import Scorecard.Insight.Basic

/-!
# The configuration

The rules and benchmarks that are shared by the analyses of all clients.
-/

namespace Scorecard

/-- The rules and benchmarks of an engine. -/
structure Configuration where
  /-- The validation rules, in the order in which they are run. -/
  validationRules : List ValidationRule := []
  /-- The benchmarks, of which an earlier one is preferred to a later one as specific. -/
  benchmarks : List Benchmark := []
  /-- The insight rules, in the order in which they are run. -/
  insightRules : List InsightRule := []

end Scorecard
