import Scorecard.Datum
import Scorecard.Text.Case
import Scorecard.Text.Split

/-!
# Rows of sheets

A row is a mapping from column names to cells. People spell column names as they like, so a column
is found by its name without letter case, underscores, hyphens and spaces: `kpi_id`, `kpiId` and
`KPI ID` are one column. Cells are read as texts, numbers, flags and lists of items; a cell is
written as a text only when it is asked for, and a name of a column always.
-/

namespace Scorecard

/-- A row of a sheet. -/
structure Row where
  /-- Its number in the sheet, counted from one. -/
  position : Nat
  /-- The cells by the normal form of their column names. -/
  cells : List (String × Datum)

namespace Row

/-- The normal form of a column name. -/
def columnKey (name : String) : String :=
  Text.without (fun c => c = '_' || c = ' ' || c = '-') (Text.fold name)

/-- The row of a mapping whose columns have names that can be written; of several columns with one
normal form the last one holds. -/
def ofFields (position : Nat) (fields : List (Datum × Datum)) : Row where
  position := position
  cells := Assoc.ofList (fields.map fun (name, cell) => (columnKey name.toText, cell))

/-- The row that a datum is. -/
def ofDatum (position : Nat) : Datum → Except Fault Row
  | .record fields =>
    if fields.all fun (name, _) => name.hasText then .ok (ofFields position fields)
    else .error .numberTooLong
  | _ => .error .rowNotMapping

/-- The datum in a column. -/
def datum (row : Row) (name : String) : Datum :=
  (row.cells.lookup (columnKey name)).getD .null

/-- The text of the first of the named columns whose cell is not blank. -/
def text? (row : Row) : (names : List String) → Except Fault (Option String)
  | [] => .ok none
  | name :: names => do
    match ← (row.datum name).cell? with
    | some s => .ok (some s)
    | none => row.text? names

/-- The text of the named columns, or a default. -/
def text (row : Row) (names : List String) (default : String) : Except Fault String :=
  (row.text? names).map (·.getD default)

/-- The number in the named columns. -/
def number? (row : Row) (names : List String) : Except Fault (Option Float) :=
  (row.text? names).map (·.bind textNumber?)

/-- Whether one of the named columns has a cell that is not blank. -/
def has (row : Row) (names : List String) : Except Fault Bool :=
  (row.text? names).map (·.isSome)

/-- The words for yes. -/
def yesWords : List String :=
  ["true", "yes", "y", "1", "x", "active", "on"]

/-- The words for no. -/
def noWords : List String :=
  ["false", "no", "n", "0", "inactive", "off"]

/-- The flag of a word in any letter case; the default, if it is no word for yes or no. -/
def flagOf (default : Bool) (s : String) : Bool :=
  let word := Text.lower s
  if yesWords.contains word then true
  else if noWords.contains word then false
  else default

/-- The flag in the named columns. -/
def flag (row : Row) (names : List String) (default : Bool) : Except Fault Bool :=
  (row.text names "").map (flagOf default)

/-- The parts of a text between separators, without white space around them and without blanks. -/
def itemsOf (separator : Char) (s : String) : List String :=
  ((Text.split separator s).filter fun part => !Text.isBlank part).map Text.trim

/-- The items in the named columns. -/
def items (row : Row) (names : List String) (separator : Char) : Except Fault (List String) :=
  (row.text names "").map (itemsOf separator)

/-- The digits at the end of a column name that starts with `stem`; nothing if something else than
digits follows the stem. -/
def ordinal? (stem key : List Char) : Option (List Char) :=
  if stem.isPrefixOf key then
    let digits := key.drop stem.length
    if digits.isEmpty || !digits.all Text.isDigit then none else some digits
  else none

/-- The number that digits of any kind denote. The decimal ones at the front must not be too many,
and there must be no other. -/
def ordinal (digits : List Char) : Except Fault Nat :=
  let decimals := Text.leadingDecimals digits
  if Text.longestNumber < decimals then .error (.ordinalTooLong decimals)
  else
    match Text.decimalNat? digits with
    | some n => .ok n
    | none => .error (.unreadableOrdinal (String.ofList digits))

/-- A numbered cell that is not blank, if a column is one. -/
def numberedCell? (stem : List Char) (key : String) (cell : Datum) :
    Except Fault (Option (Nat × String)) :=
  match ordinal? stem key.toList with
  | none => .ok none
  | some digits => do
    match ← cell.cell? with
    | none => .ok none
    | some text => (ordinal digits).map fun n => some (n, text)

/-- Whether one numbered cell may stand before another: by number, and by text where two columns
have one number. -/
def numberedLe (a b : Nat × String) : Bool :=
  a.1 < b.1 || (a.1 = b.1 && a.2 ≤ b.2)

/-- The texts of the cells `stem 1`, `stem 2` and so on that are not blank, in ascending order. -/
def numbered (row : Row) (stem : String) : Except Fault (List String) := do
  let found ← row.cells.mapM fun (key, cell) =>
    numberedCell? (columnKey stem).toList key cell
  return ((found.filterMap id).mergeSort numberedLe).map (·.2)

end Row

end Scorecard
