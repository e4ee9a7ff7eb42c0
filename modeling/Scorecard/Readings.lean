import Scorecard.Datum
import Scorecard.Text.Case

/-!
# Readings

The readings of one client are a number or its absence for each KPI. A KPI is addressed by its id
in any letter case and with any white space around it; the id is kept as it was first spelled, and
a later reading of the same KPI replaces an earlier one in its place.
-/

namespace Scorecard

/-- The reading of one KPI. -/
structure Reading where
  /-- The form of the id under which the KPI is found. -/
  key : String
  /-- The id as it was first spelled. -/
  id : String
  /-- The number; absent if none was given or it was not finite. -/
  value : Option Float

/-- The readings of one client, one for each KPI, in order of first mention. -/
structure Readings where
  /-- The readings. -/
  entries : List Reading

namespace Readings

/-- No readings. -/
def empty : Readings := ⟨[]⟩

/-- The list of readings with the value under `key` set; `id` is its spelling if it is new. -/
def record (key id : String) (value : Option Float) : List Reading → List Reading
  | [] => [⟨key, id, value⟩]
  | r :: rest => if r.key = key then ⟨key, r.id, value⟩ :: rest else r :: record key id value rest

/-- The readings with one more entry; a blank id is passed over. -/
def add (r : Readings) (name : String) (raw : Datum) : Except Fault Readings :=
  let id := Text.trim name
  if id.isEmpty then .ok r
  else raw.number?.map fun value => ⟨record (Text.lower id) id value r.entries⟩

/-- The readings of a mapping from names to data. -/
def ofEntries (entries : List (String × Datum)) : Except Fault Readings :=
  entries.foldlM (fun r (name, raw) => r.add name raw) empty

/-- The reading that a name addresses. -/
def find? (r : Readings) (name : String) : Option Reading :=
  r.entries.find? fun reading => reading.key = Text.fold name

/-- The number of the KPI that a name addresses, if there is one. -/
def value? (r : Readings) (name : String) : Option Float :=
  (r.find? name).bind (·.value)

/-- The id of the KPI that a name addresses, as it was first spelled. -/
def id? (r : Readings) (name : String) : Option String :=
  (r.find? name).map (·.id)

/-- The number or absence of the KPI that a name addresses; nothing if there is no such KPI. -/
def get? (r : Readings) (name : String) : Option (Option Float) :=
  (r.find? name).map (·.value)

/-- Whether a name addresses a KPI. -/
def contains (r : Readings) (name : String) : Bool :=
  (r.find? name).isSome

/-- Whether a name addresses a KPI that has a number. -/
def hasValue (r : Readings) (name : String) : Bool :=
  (r.value? name).isSome

/-- The ids, in order of first mention. -/
def ids (r : Readings) : List String :=
  r.entries.map (·.id)

/-- Every id with its number or absence. -/
def items (r : Readings) : List (String × Option Float) :=
  r.entries.map fun reading => (reading.id, reading.value)

/-- The ids that have a number, with it. -/
def present (r : Readings) : List (String × Float) :=
  r.entries.filterMap fun reading => reading.value.map (reading.id, ·)

/-- How many KPIs there are, with a number or without. -/
def size (r : Readings) : Nat :=
  r.entries.length

end Readings

end Scorecard
