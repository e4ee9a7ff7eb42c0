import Scorecard.Sheet.Row
import Scorecard.Warning

/-!
# Loading sheets

Each row of a sheet is read on its own: it is kept, with warnings about what was amended in it, or
dropped with a warning that says so.
-/

namespace Scorecard

/-- What came of a row. -/
inductive RowResult (α : Type) where
  /-- It was kept. -/
  | kept (item : α) (warnings : List Warning)
  /-- It was dropped. -/
  | dropped (warning : Warning)

namespace RowResult

variable {α : Type}

/-- What the row gave, if it was kept. -/
def item? : RowResult α → Option α
  | kept item _ => some item
  | dropped _ => none

/-- The warnings about the row. -/
def warnings : RowResult α → List Warning
  | kept _ warnings => warnings
  | dropped warning => [warning]

end RowResult

/-- What came of a sheet, in the order of its rows. -/
structure Load (α : Type) where
  /-- What the rows gave that were kept. -/
  items : List α
  /-- The warnings about all rows. -/
  warnings : List Warning

namespace Load

variable {α : Type}

/-- What came of a sheet whose rows were read one by one. -/
def ofResults (results : List (RowResult α)) : Load α where
  items := results.filterMap RowResult.item?
  warnings := results.flatMap RowResult.warnings

end Load

/-- Reads the rows of a sheet, which are counted from `position` on. -/
def readRows {α : Type} (read : Row → Except Fault α) :
    (position : Nat) → List Datum → Except Fault (List α)
  | _, [] => .ok []
  | position, d :: rows => do
    let row ← Row.ofDatum position d
    let a ← read row
    let rest ← readRows read (position + 1) rows
    return a :: rest

/-- Loads a sheet. -/
def loadRows {α : Type} (read : Row → Except Fault (RowResult α)) (rows : List Datum) :
    Except Fault (Load α) :=
  (readRows read 1 rows).map .ofResults

/-- How a warning refers to a row without an id. -/
def Row.ref (row : Row) : String :=
  "row " ++ row.position.repr

end Scorecard
