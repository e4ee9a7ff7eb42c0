import Scorecard.Datum

/-!
# Reading CSV

A record is a line of fields between commas. A field that starts with a double quote runs to the
next quote that is not doubled, over commas and line breaks; a quote elsewhere is text. The first
record names the columns, and each later one that is not empty is a row.
-/

namespace Scorecard.Csv

/-- Where in a record the reader stands. -/
inductive State where
  /-- Before the first field. -/
  | recordStart
  /-- Before a later field. -/
  | fieldStart
  /-- In a field without quotes, or after the closing quote. -/
  | plain
  /-- Between quotes. -/
  | quoted
  /-- After a quote between quotes. -/
  | quoteSeen
  deriving DecidableEq, Repr

/-- The fields with the current one, whose characters are kept last one first. -/
def close (fields : List String) (current : List Char) : List String :=
  fields ++ [String.ofList current.reverse]

/-- The records of a text. A line break ends a record, a carriage return before a line feed belongs
to it, and the last record needs none. -/
def recordsFrom : State → (fields : List String) → (current : List Char) → List Char →
    List (List String)
  | .recordStart, _, _, [] => []
  | _, fields, current, [] => [close fields current]
  | .recordStart, _, _, '\r' :: '\n' :: cs => [] :: recordsFrom .recordStart [] [] cs
  | .recordStart, _, _, '\r' :: cs => [] :: recordsFrom .recordStart [] [] cs
  | .recordStart, _, _, '\n' :: cs => [] :: recordsFrom .recordStart [] [] cs
  | .quoted, fields, current, '"' :: cs => recordsFrom .quoteSeen fields current cs
  | .quoted, fields, current, c :: cs => recordsFrom .quoted fields (c :: current) cs
  | .quoteSeen, fields, current, '"' :: cs => recordsFrom .quoted fields ('"' :: current) cs
  | _, fields, current, '\r' :: '\n' :: cs =>
    close fields current :: recordsFrom .recordStart [] [] cs
  | _, fields, current, '\r' :: cs => close fields current :: recordsFrom .recordStart [] [] cs
  | _, fields, current, '\n' :: cs => close fields current :: recordsFrom .recordStart [] [] cs
  | _, fields, current, ',' :: cs => recordsFrom .fieldStart (close fields current) [] cs
  | .recordStart, fields, _, '"' :: cs => recordsFrom .quoted fields [] cs
  | .fieldStart, fields, _, '"' :: cs => recordsFrom .quoted fields [] cs
  | _, fields, current, c :: cs => recordsFrom .plain fields (c :: current) cs

/-- The records of a text, without a byte order mark at its start. -/
def records (s : String) : List (List String) :=
  let cs := match s.toList with
    | '\ufeff' :: cs => cs
    | cs => cs
  recordsFrom .recordStart [] [] cs

/-- A row: the fields under the names of their columns, no value under the names that are left
over, and the fields that are left over under no name. -/
def row (header fields : List String) : Datum :=
  let named := (header.zip fields).map fun (name, field) => (Datum.text name, Datum.text field)
  let missing := (header.drop fields.length).map fun name => (Datum.text name, Datum.null)
  let surplus := fields.drop header.length
  .record <| Assoc.ofList <|
    named ++ (if surplus.isEmpty then [] else [(.null, .list (surplus.map .text))]) ++ missing

/-- The rows of a text. -/
def rows (s : String) : List Datum :=
  match records s with
  | [] => []
  | header :: records => (records.filter fun fields => !fields.isEmpty).map (row header)

end Scorecard.Csv
