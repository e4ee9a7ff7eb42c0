import Scorecard.Readings
import Scorecard.Settings
import Scorecard.Template

/-!
# The context of an analysis

Everything that the rules of one analysis may read: the readings, the client, the settings and
what is known of the KPIs.
-/

namespace Scorecard

/-- What one analysis reads. -/
structure Context where
  /-- The figures of the client. -/
  readings : Readings := .empty
  /-- The client. -/
  client : Client := {}
  /-- The settings. -/
  settings : Settings := {}
  /-- The definitions of KPIs by their ids in lower case. -/
  kpis : List (String × Kpi) := []

namespace Context

/-- The definitions by id; of several for one KPI the first one holds. -/
def indexKpis (kpis : List Kpi) : List (String × Kpi) :=
  kpis.foldl (fun index k => Assoc.putNew (Text.lower k.id) k index) []

/-- The definition of a KPI. One that is not defined goes by the id of its reading, or else by the
id that was asked for. -/
def kpi (ctx : Context) (id : String) : Kpi :=
  match ctx.kpis.lookup id <|> ctx.kpis.lookup (Text.lower id) with
  | some k => k
  | none => { id := ((ctx.readings.find? id).map (·.id)).getD id }

/-- The value of an expression. -/
def evaluate? (ctx : Context) (expr : String) : Option Float :=
  Expr.evaluate? expr ctx.settings.maxDepth ctx.readings.value?

end Context

/-- The fields that every template may show. -/
def Client.fields (client : Client) : Fields :=
  [("company_name", .text client.companyName), ("industry", .text client.industry),
    ("state", .text client.region)]

end Scorecard
