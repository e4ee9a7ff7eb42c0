import Scorecard.Fault
import Scorecard.Text.Case

/-!
# Ratings

A rated KPI is on one of five levels, from critical to excellent. The levels are ordered by rank,
worst first.
-/

namespace Scorecard

/-- How good a figure is. -/
inductive Rating where
  /-- Worse than every threshold. -/
  | critical
  /-- On the lowest threshold or better. -/
  | poor
  /-- On the second threshold or better. -/
  | average
  /-- On the third threshold or better. -/
  | good
  /-- On the highest threshold or better. -/
  | excellent
  deriving DecidableEq, Repr

namespace Rating

/-- The name of a rating. -/
def name : Rating → String
  | critical => "critical"
  | poor => "poor"
  | average => "average"
  | good => "good"
  | excellent => "excellent"

/-- The ratings, worst first. -/
def all : List Rating :=
  [critical, poor, average, good, excellent]

/-- The place of a rating among all of them. -/
def rank : Rating → Nat
  | critical => 0
  | poor => 1
  | average => 2
  | good => 3
  | excellent => 4

/-- The rating of a name, in any letter case and with white space around it. -/
def ofText? (text : String) : Option Rating :=
  all.find? (·.name = Text.fold text)

/-- The rating of a name, or the complaint that there is none. -/
def read (text : String) : Except Fault Rating :=
  match ofText? text with
  | some rating => .ok rating
  | none => .error (.unknownRating text)

end Rating

end Scorecard
