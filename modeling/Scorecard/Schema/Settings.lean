import Scorecard.Schema.Basic
import Scorecard.Settings

/-!
# The schemas of settings and clients

Fields that are not given have their defaults, and fields that are not known are passed over.
-/

namespace Scorecard

/-- The settings that a mapping of fields gives. -/
def Settings.ofFields (fields : List (Datum × Datum)) : Schema.Checked Settings :=
  open Schema in
  let default : Settings := {}
  (both (field fields "period_divisors" (mapping Period.ofName? float) default.periodDivisors) <|
    both (field fields "max_expression_depth" int default.maxDepth) <|
    both (field fields "max_recommendations" int default.maxRecommendations) <|
    both (field fields "default_tolerance" float default.defaultTolerance) <|
    both (field fields "status_order" (mapping Status.ofName? int) default.statusOrder) <|
    both (field fields "currency_symbol" text default.style.currencySymbol) <|
    both (field fields "percent_decimals" int default.style.percentPlaces)
      (field fields "value_decimals" int default.style.valuePlaces)).map
    fun (periodDivisors, maxDepth, maxRecommendations, defaultTolerance, statusOrder,
        currencySymbol, percentPlaces, valuePlaces) =>
      { periodDivisors, maxDepth, maxRecommendations, defaultTolerance, statusOrder
        style := { currencySymbol, percentPlaces, valuePlaces } }

/-- The client that a datum describes. -/
def Client.ofDatum : Schema.Reader Client
  | .record fields =>
    open Schema in
    let default : Client := {}
    (both (field fields "client_id" text default.id) <|
      both (field fields "company_name" text default.companyName) <|
      both (field fields "industry" text default.industry) <|
      both (field fields "region" text default.region)
        (field fields "period" (oneOf Period.ofName?) default.period)).map
      fun (id, companyName, industry, region, period) =>
        { id, companyName, industry, region, period }
  | _ => Schema.fault .modelType

end Scorecard
