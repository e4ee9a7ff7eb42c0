/-!
# The status of a finding

A finding is a concern, a warning or good news. An ordering gives statuses a rank; it may leave
statuses out.
-/

namespace Scorecard

/-- What kind of news a finding is. -/
inductive Status where
  /-- Something is wrong. -/
  | concern
  /-- Something may go wrong. -/
  | warning
  /-- Something goes well. -/
  | good
  deriving DecidableEq, Repr

/-- The name of a status. -/
def Status.name : Status → String
  | concern => "concern"
  | warning => "warning"
  | good => "good"

/-- Every status. -/
def Status.all : List Status :=
  [concern, warning, good]

/-- The status of a name. -/
def Status.ofName? (name : String) : Option Status :=
  all.find? (·.name = name)

/-- The ranks of some statuses; a lower one comes first. -/
abbrev StatusOrder := List (Status × Int)

/-- The ranks that hold where nothing else is said. -/
def StatusOrder.default : StatusOrder :=
  [(.concern, 0), (.warning, 1), (.good, 2)]

/-- The rank of a status. A status that is left out has the number of ranked ones for its rank. -/
def StatusOrder.rank (order : StatusOrder) (status : Status) : Int :=
  (order.lookup status).getD order.length

end Scorecard
