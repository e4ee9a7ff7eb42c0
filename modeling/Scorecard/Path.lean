import Scorecard.Text.Split

/-!
# Paths

A path is a sequence of names, followed from the root or from the folder one is in. Between names
there is a slash; empty names and single points lead nowhere and are dropped when a path is read.
-/

namespace Scorecard

/-- A path of files and folders. -/
structure Path where
  /-- Whether it starts from the root. -/
  absolute : Bool
  /-- The names to follow. -/
  names : List String
  deriving DecidableEq, Repr

namespace Path

/-- The path that leads nowhere. -/
def here : Path := ⟨false, []⟩

/-- The path that a text spells. -/
def ofText (s : String) : Path where
  absolute := s.toList.head? = some '/'
  names := (Text.split '/' s).filter fun name => name ≠ "" && name ≠ "."

/-- The text of a path. -/
def toText (p : Path) : String :=
  let route := "/".intercalate p.names
  if p.absolute then "/" ++ route else if p.names.isEmpty then "." else route

/-- A path from where another one ends; one from the root does not need the other. -/
def join (base p : Path) : Path :=
  if p.absolute then p else { base with names := base.names ++ p.names }

/-- The path to a file or folder in the one that a path leads to. -/
def child (p : Path) (name : String) : Path :=
  p.join (ofText name)

/-- The last name; empty if there is none. -/
def lastName (p : Path) : String :=
  p.names.getLast?.getD ""

/-- The path to the folder of the last name. -/
def parent (p : Path) : Path :=
  { p with names := p.names.dropLast }

/-- Names without steps upwards: two points undo the name before them. -/
def climb (names : List String) : List String :=
  names.foldl (fun above name => if name = ".." then above.dropLast else above ++ [name]) []

/-- The path without steps upwards. -/
def straight (p : Path) : Path :=
  { p with names := climb p.names }

end Path

end Scorecard
