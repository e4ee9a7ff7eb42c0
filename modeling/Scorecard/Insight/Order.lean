import Scorecard.Insight.Basic

/-!
# The order of findings

Findings are shown in sections, which come in the order in which they are first met. In a section
they are sorted by the rank of their status and then by priority; the sort is stable.
-/

namespace Scorecard

/-- The sections of a report, each with its findings. -/
abbrev Sections := List (String × List Finding)

/-- Whether one finding may stand before another in a section. -/
def Finding.le (order : StatusOrder) (a b : Finding) : Bool :=
  let rankA := order.rank a.status
  let rankB := order.rank b.status
  rankA < rankB || (rankA = rankB && a.priority ≤ b.priority)

namespace Sections

/-- The findings in their sections, sorted. -/
def ofFindings (order : StatusOrder) (findings : List Finding) : Sections :=
  (findings.map (·.sectionId)).eraseDups.map fun sectionId =>
    (sectionId, (findings.filter (·.sectionId = sectionId)).mergeSort (Finding.le order))

/-- The findings of all sections, one section after the other. -/
def findings (sections : Sections) : List Finding :=
  sections.flatMap (·.2)

end Sections

end Scorecard
