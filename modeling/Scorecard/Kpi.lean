import Scorecard.Datum
import Scorecard.Text.Case

/-!
# KPIs and how their figures are shown

A KPI definition names a KPI and says how its figures are written: as a percentage, an amount of
money, a plain number, a ratio or a number of days, with a number of decimal places of its own or
the one that the settings give for its format.
-/

namespace Scorecard

/-- How the figures of a KPI are written. -/
inductive KpiFormat where
  /-- With a percent sign. -/
  | percentage
  /-- With the currency symbol in front. -/
  | currency
  /-- Without a unit. -/
  | number
  /-- With a multiplication sign `x`. -/
  | ratio
  /-- With the word `days`. -/
  | days
  deriving DecidableEq, Repr

/-- The name of a format. -/
def KpiFormat.name : KpiFormat → String
  | percentage => "percentage"
  | currency => "currency"
  | number => "number"
  | ratio => "ratio"
  | days => "days"

/-- Every format. -/
def KpiFormat.all : List KpiFormat :=
  [percentage, currency, number, ratio, days]

/-- The format of a name. -/
def KpiFormat.ofName? (name : String) : Option KpiFormat :=
  all.find? (·.name = name)

/-- What is known of a KPI. -/
structure Kpi where
  /-- Its id. -/
  id : String
  /-- Its name; empty if it has none but its id. -/
  name : String := ""
  /-- How its figures are written. -/
  format : KpiFormat := .number
  /-- Its own number of decimal places. -/
  places : Option Int := none
  deriving DecidableEq, Repr

/-- The name under which a KPI is shown. -/
def Kpi.displayName (k : Kpi) : String :=
  if k.name.isEmpty then k.id else k.name

end Scorecard
