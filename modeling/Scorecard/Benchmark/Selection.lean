import Scorecard.Benchmark.Basic
import Scorecard.Settings

/-!
# Choosing benchmarks for a client

A benchmark applies to a client if each of its two filters is a wildcard or names what the client
is. A filter that names something is more specific than a wildcard, and the industry counts more
than the region. Of the benchmarks for a KPI that apply, the most specific one is selected, and the
first one among equals.
-/

namespace Scorecard

/-- How specific a benchmark is for a client that it applies to. -/
inductive Scope where
  /-- It names the industry and the region. -/
  | exact
  /-- It names the industry. -/
  | industry
  /-- It names the region. -/
  | region
  /-- It names neither. -/
  | universal
  deriving DecidableEq, Repr

/-- The name of a scope. -/
def Scope.name : Scope → String
  | exact => "exact"
  | industry => "industry"
  | region => "region"
  | universal => "universal"

/-- The rank of a scope; a higher one is more specific. -/
def Scope.rank : Scope → Nat
  | exact => 4
  | industry => 3
  | region => 2
  | universal => 1

namespace Benchmark

/-- The spellings of a filter that lets everything pass. -/
def wildcards : List String :=
  ["", "all", "*", "any"]

/-- Whether a filter lets everything pass. -/
def isWildcard (filter : String) : Bool :=
  wildcards.contains (Text.fold filter)

/-- Whether a filter names what a client is; nothing names a blank. -/
def names (filter subject : String) : Bool :=
  !Text.isBlank subject && Text.fold filter = Text.fold subject

/-- The scope of a benchmark for a client: the most specific one whose conditions hold. There is
none if the benchmark does not apply. -/
def scope? (b : Benchmark) (client : Client) : Option Scope :=
  let industryNamed := names b.industryFilter client.industry
  let regionNamed := names b.regionFilter client.region
  let anyIndustry := isWildcard b.industryFilter
  let anyRegion := isWildcard b.regionFilter
  if industryNamed && regionNamed then some .exact
  else if industryNamed && anyRegion then some .industry
  else if anyIndustry && regionNamed then some .region
  else if anyIndustry && anyRegion then some .universal
  else none

/-- The form of the KPI's id under which a benchmark is found. -/
def key (b : Benchmark) : String :=
  Text.fold b.kpiId

end Benchmark

/-- A benchmark that was selected for a client. -/
structure Selected where
  /-- The benchmark. -/
  benchmark : Benchmark
  /-- Its scope for the client. -/
  scope : Scope
  /-- What its thresholds are divided by if they are for a whole year. -/
  divisor : Float

/-- A threshold for a part of a year. -/
def dividedBy (divisor : Float) : Option Float → Except Fault (Option Float)
  | none => .ok none
  | some x => if divisor == 0.0 then .error .zeroDivisor else .ok (some (x / divisor))

/-- The thresholds for the client's reporting period. -/
def Selected.levels (s : Selected) : Except Fault (Levels (Option Float)) :=
  if s.benchmark.basis ≠ .annual || s.divisor == 1.0 then .ok s.benchmark.levels
  else s.benchmark.levels.mapM (dividedBy s.divisor)

/-- The selected benchmarks by the key of their KPI. -/
abbrev Selection := List (String × Selected)

namespace Selection

/-- The selection after one more benchmark: it takes the place of a less specific one. -/
def consider (client : Client) (divisor : Float) (selection : Selection) (b : Benchmark) :
    Selection :=
  match b.scope? client with
  | none => selection
  | some scope =>
    match selection.lookup b.key with
    | some current =>
      if current.scope.rank < scope.rank then Assoc.put b.key ⟨b, scope, divisor⟩ selection
      else selection
    | none => Assoc.put b.key ⟨b, scope, divisor⟩ selection

/-- The benchmarks selected for a client. -/
def build (benchmarks : List Benchmark) (client : Client) (settings : Settings) : Selection :=
  benchmarks.foldl (consider client (settings.divisor client.period)) []

/-- The benchmark selected for a KPI. -/
def find? (selection : Selection) (kpiId : String) : Option Selected :=
  selection.lookup (Text.fold kpiId)

end Selection

end Scorecard
