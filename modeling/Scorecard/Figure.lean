import Scorecard.Kpi

/-!
# Figures

The text of a number in messages and findings. A figure is rounded to a number of decimal places;
zeros at the end of the places are left out, and a zero never shows a minus sign. An amount of
money keeps all of its places and has its sign before the currency symbol.
-/

namespace Scorecard.Figure

open Scorecard.Decimal (fixedText dropTrailingZeros)

/-- The most places that a figure may have. -/
def mostPlaces : Nat := 2147483647

/-- The number of places, which must not be negative or above the most. It has to be written
first. -/
def places? (places : Int) : Except Fault Nat :=
  if !(Datum.int places).hasText then .error .numberTooLong
  else if places < 0 then .error .negativePlaces
  else if mostPlaces < places.toNat then .error (.tooManyPlaces places.toNat)
  else .ok places.toNat

/-- Digits without the zeros after the point that end them, and without a point at the end. -/
def dropFraction (cs : List Char) : List Char :=
  if cs.contains '.' then
    Text.dropEndWhile (· = '.') (Text.dropEndWhile (· = '0') cs)
  else cs

/-- A figure in its shortest form; the negative zero is a zero. -/
def tidy (cs : List Char) : List Char :=
  let short := dropFraction cs
  if short = ['-', '0'] || short = [] then ['0'] else short

/-- A number rounded to `places` places, without commas. -/
def rounded (x : Float) (places : Int) : Except Fault String :=
  (places? places).map fun n => String.ofList (tidy (fixedText x n false))

/-- A number rounded to `places` places, with commas between groups of three digits. -/
def grouped (x : Float) (places : Int) : Except Fault String :=
  (places? places).map fun n => String.ofList (tidy (fixedText x n true))

/-- An amount of money: the sign, the symbol and all places. -/
def money (symbol : String) (x : Float) (places : Int) : Except Fault String :=
  (places? places).map fun n =>
    (if x < 0.0 then "-" else "") ++ symbol ++ String.ofList (fixedText x.abs n true)

/-- The settings on which figures depend. -/
structure Style where
  /-- What stands before an amount of money. -/
  currencySymbol : String := "$"
  /-- The places of a percentage, unless the KPI has its own. -/
  percentPlaces : Int := 1
  /-- The places of a plain number, unless the KPI has its own. -/
  valuePlaces : Int := 2
  deriving DecidableEq, Repr

/-- The number of places that the figures of a KPI are rounded to. -/
def Style.placesOf (style : Style) (kpi : Kpi) : Int :=
  kpi.places.getD <|
    match kpi.format with
    | .percentage => style.percentPlaces
    | .currency | .days => 0
    | .ratio => 2
    | .number => style.valuePlaces

/-- The unit that follows the figures of a format. -/
def unit : KpiFormat → String
  | .percentage => "%"
  | .ratio => "x"
  | .days => " days"
  | .currency | .number => ""

/-- A number as a figure of a KPI. -/
def format (style : Style) (kpi : Kpi) (x : Float) : Except Fault String :=
  let places := style.placesOf kpi
  match kpi.format with
  | .currency => money style.currencySymbol x places
  | format => (grouped x places).map (· ++ unit format)

end Scorecard.Figure
