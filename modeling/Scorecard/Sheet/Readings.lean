import Scorecard.Readings
import Scorecard.Sheet.Load

/-!
# Readings from sheets and files

Readings come as a mapping from ids to cells, or as rows with a column for the id and one for the
value. Cells may be written as in a sheet, with a dollar or percent sign, and a few words stand for
no value.
-/

namespace Scorecard

/-- The words for no value, in lower case. -/
def absentWords : List String :=
  ["", "n/a", "na", "none", "null", "-", "--"]

/-- The datum of a text in a value cell: nothing for the words for no value, and otherwise the text
without currency and percent signs. -/
def cleanText (s : String) : Datum :=
  let text := Text.trim s
  if absentWords.contains (Text.lower text) then .null
  else .text (Text.without (fun c => c = '$' || c = '%') text)

/-- The datum of a value cell. -/
def clean : Datum → Datum
  | .text s => cleanText s
  | d => d

namespace Readings

/-- The readings of a mapping from ids to cells. -/
def ofCells (cells : List (String × Datum)) : Except Fault Readings :=
  ofEntries (cells.map fun (id, cell) => (id, clean cell))

/-- The id and the value of a row; nothing if it has no id. -/
def entryOfRow? (row : Row) : Except Fault (Option (String × Datum)) := do
  match ← row.text? ["kpi_id", "id"] with
  | none => .ok none
  | some id => (row.text ["value"] "").map fun s => some (id, cleanText s)

/-- The readings of rows. -/
def ofRows (rows : List Datum) : Except Fault Readings := do
  let entries ← readRows entryOfRow? 1 rows
  ofEntries (Assoc.ofList (entries.filterMap id))

/-- The readings of a mapping. Its ids are written one after the other. -/
def ofFields (fields : List (Datum × Datum)) : Except Fault Readings :=
  fields.foldlM (fun r (id, cell) => do r.add (← id.written) (clean cell)) empty

/-- The readings that a datum describes. A text is taken for a sequence of its characters, none of
which is a row. -/
def ofDatum : Datum → Except Fault Readings
  | .record fields => ofFields fields
  | .list rows => ofRows rows
  | .text s => if s.isEmpty then .ok empty else .error .rowNotMapping
  | .null | .bool _ | .int _ | .float _ => .error .notCollection

end Readings

end Scorecard
