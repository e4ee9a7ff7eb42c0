import Scorecard.Datum
import Scorecard.Rating

/-!
# Benchmarks

A benchmark gives four thresholds for a KPI, the direction in which its figures get better, and
the industry and region that it applies to. Rating walks the thresholds from the best one down and
stops at the first that the figure meets, so any four thresholds rate every figure, in whatever
order they are.
-/

namespace Scorecard

/-- The direction in which figures get better. -/
inductive Direction where
  /-- A higher figure is better. -/
  | higher
  /-- A lower figure is better. -/
  | lower
  deriving DecidableEq, Repr

/-- The name of a direction. -/
def Direction.name : Direction → String
  | higher => "higher"
  | lower => "lower"

/-- Every direction. -/
def Direction.all : List Direction :=
  [higher, lower]

/-- The direction of a name. -/
def Direction.ofName? (name : String) : Option Direction :=
  all.find? (·.name = name)

/-- The direction of a name in any letter case, or the complaint that there is none. -/
def Direction.read (text : String) : Except Fault Direction :=
  match ofName? (Text.fold text) with
  | some direction => .ok direction
  | none => .error (.unknownDirection text)

/-- Whether a figure is on a threshold or on the better side of it. -/
def Direction.meets : Direction → (value threshold : Float) → Bool
  | higher, value, threshold => threshold ≤ value
  | lower, value, threshold => value ≤ threshold

/-- What the thresholds of a benchmark are for. -/
inductive Basis where
  /-- A whole year. -/
  | annual
  /-- Any period. -/
  | agnostic
  deriving DecidableEq, Repr

/-- The name of a basis. -/
def Basis.name : Basis → String
  | annual => "annual"
  | agnostic => "agnostic"

/-- Every basis. -/
def Basis.all : List Basis :=
  [annual, agnostic]

/-- The basis of a name. -/
def Basis.ofName? (name : String) : Option Basis :=
  all.find? (·.name = name)

/-- Something for each of the four levels that have a threshold. -/
structure Levels (α : Type) where
  /-- For the lowest of them. -/
  poor : α
  /-- For the second. -/
  average : α
  /-- For the third. -/
  good : α
  /-- For the highest. -/
  excellent : α
  deriving DecidableEq, Repr

namespace Levels

variable {α β : Type}

/-- The four, from the lowest level to the highest. -/
def toList (l : Levels α) : List α :=
  [l.poor, l.average, l.good, l.excellent]

/-- The names of the levels. -/
def names : Levels String :=
  ⟨"poor", "average", "good", "excellent"⟩

/-- Four items as levels; nothing for fewer or more. -/
def ofList? : List α → Option (Levels α)
  | [poor, average, good, excellent] => some ⟨poor, average, good, excellent⟩
  | _ => none

/-- Something else for each level. -/
def map (f : α → β) (l : Levels α) : Levels β :=
  ⟨f l.poor, f l.average, f l.good, f l.excellent⟩

/-- Something else for each level, from the lowest one on, unless it fails for one. -/
def mapM {m : Type → Type} [Monad m] (f : α → m β) (l : Levels α) : m (Levels β) := do
  return ⟨← f l.poor, ← f l.average, ← f l.good, ← f l.excellent⟩

/-- The rating of a figure: the best level whose threshold it meets. -/
def rate (levels : Levels Float) (direction : Direction) (value : Float) : Rating :=
  if direction.meets value levels.excellent then .excellent
  else if direction.meets value levels.good then .good
  else if direction.meets value levels.average then .average
  else if direction.meets value levels.poor then .poor
  else .critical

/-- The thresholds as numbers, if all four are there and finite. -/
def finite? (levels : Levels (Option Float)) : Option (Levels Float) :=
  levels.mapM fun (threshold : Option Float) => threshold.bind Scorecard.finite?

/-- The rating of a figure by thresholds that may be absent; there is one if the figure is a number
and all four thresholds are finite. -/
def rate? (levels : Levels (Option Float)) (direction : Direction) (value : Float) :
    Option Rating :=
  if value.isNaN then none else levels.finite?.map (·.rate direction value)

end Levels

/-- A benchmark. -/
structure Benchmark where
  /-- The KPI. -/
  kpiId : String
  /-- The industry that it applies to, or a word for all of them. -/
  industryFilter : String := "all"
  /-- The region that it applies to, or a word for all of them. -/
  regionFilter : String := "all"
  /-- The thresholds. -/
  levels : Levels (Option Float) := ⟨none, none, none, none⟩
  /-- The direction in which figures get better. -/
  direction : Direction := .higher
  /-- What the thresholds are for. -/
  basis : Basis := .agnostic

/-- The thresholds that a datum gives: a sequence, or a mapping by the names of the levels. A text
gives none, and neither does a sequence of another length than four. -/
def thresholds? : Datum → Except Fault (Option (Levels Datum))
  | .list items => .ok (Levels.ofList? items)
  | .record fields =>
    .ok (some (Levels.names.map fun name => (fields.lookup (.text name)).getD .null))
  | .text _ => .ok none
  | .null | .bool _ | .int _ | .float _ => .error .notCollection

/-- The double that a figure given as any datum stands for. -/
def figure? : Datum → Except Fault (Option Float)
  | .int n => (Datum.int n).number?
  | .float x => .ok (some x)
  | .text s => .ok (Decimal.double? s.toList)
  | .null | .bool _ | .list _ | .record _ => .ok none

/-- The rating of a figure, where the figure, the thresholds and the direction are given as data.
What cannot be read as a number has no rating. -/
def rateData (value thresholds : Datum) (direction : String) : Except Fault (Option Rating) := do
  let direction ← Direction.read direction
  match ← figure? value with
  | none => return none
  | some x =>
    if x.isNaN then return none
    match ← thresholds? thresholds with
    | none => return none
    | some levels => return (← levels.mapM Datum.number?).rate? direction x

end Scorecard
