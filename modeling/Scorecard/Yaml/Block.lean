import Scorecard.Yaml.Flow

/-!
# YAML collections by indentation

Sequences with a dash before each item and mappings with a key in each line. Collections are read by
the column of their first token: an entry starts in just that column, and what belongs to it further
to the right.
-/

namespace Scorecard.Yaml

/-- Whether a sequence entry by indentation starts here. -/
def atDash (c : Cursor) : Bool :=
  match c.rest with
  | '-' :: cs => atGap cs
  | _ => false

/-- A scalar, or a collection between brackets. -/
def inlineNode? (indent : Nat) (c : Cursor) : Option Node :=
  match c.rest with
  | '[' :: _ | '\x7b' :: _ =>
    (flowNode? (4 * c.rest.length + 4) c).map fun n =>
      let read := c.rest.take (c.rest.length - n.after.rest.length)
      { n with multiline := read.contains '\n' }
  | _ => scalar? false indent c

/-- The place after the colon of a key on one line, if there is a colon. -/
def afterColon? (n : Node) : Option Cursor :=
  let c := n.after.forward (n.after.rest.takeWhile (· = ' ')).length
  match c.rest with
  | ':' :: cs => if atGap cs && !n.multiline && isKey n.datum then some (c.forward 1) else none
  | _ => none

/-- The next token, which has to be in another line. -/
def nextLine? (c : Cursor) : Option Cursor :=
  let next := c.token
  if next.fresh || next.rest.isEmpty then some next else none

mutual

/-- A node at its first token, which starts a line or follows a dash. The collection around it is
`indent - 1` columns deep, so that lines from `indent` on belong to it. -/
def blockNode? : (fuel : Nat) → (indent : Nat) → Cursor → Option (Datum × Cursor)
  | 0, _, _ => none
  | fuel + 1, indent, c =>
    if atDash c then
      (blockItems? fuel c.column c).map fun (items, next) => (.list items, next)
    else do
      let n ← inlineNode? indent c
      match afterColon? n with
      | some _ => do
        let (entries, next) ← blockEntries? fuel c.column c
        some (← mapping? entries, next)
      | none => some (n.datum, ← nextLine? n.after)

/-- The items of a sequence whose dashes are in the given column, from a dash on. -/
def blockItems? : (fuel column : Nat) → Cursor → Option (List Datum × Cursor)
  | 0, _, _ => none
  | fuel + 1, column, c => do
    let content := (c.forward 1).token
    let (item, next) ←
      if content.rest.isEmpty || content.column ≤ column || atMarker content then
        some (Datum.null, content)
      else blockNode? fuel (column + 1) content
    if next.column = column && atDash next && !next.rest.isEmpty then do
      let (items, after) ← blockItems? fuel column next
      some (item :: items, after)
    else if column < next.column && !next.rest.isEmpty then none
    else some ([item], next)

/-- The value of an entry whose key is in the given column, after its colon. In the same line it is
a scalar or between brackets; a sequence may stand in the column of the key. -/
def blockValue? : (fuel column : Nat) → Cursor → Option (Datum × Cursor)
  | 0, _, _ => none
  | fuel + 1, column, c =>
    let content := c.token
    if content.rest.isEmpty || atMarker content then some (.null, content)
    else if !content.fresh then do
      let n ← inlineNode? (column + 1) content
      some (n.datum, ← nextLine? n.after)
    else if column < content.column then blockNode? fuel (column + 1) content
    else if content.column = column && atDash content then
      (blockItems? fuel column content).map fun (items, next) => (.list items, next)
    else some (.null, content)

/-- The entries of a mapping whose keys are in the given column, from a key on. -/
def blockEntries? : (fuel column : Nat) → Cursor → Option (List (Datum × Datum) × Cursor)
  | 0, _, _ => none
  | fuel + 1, column, c => do
    if atDash c then none
    let n ← inlineNode? (column + 1) c
    let (value, next) ← blockValue? fuel column (← afterColon? n)
    if next.rest.isEmpty || next.column < column || atMarker next then
      some ([(n.datum, value)], next)
    else if next.column = column then do
      let (entries, after) ← blockEntries? fuel column next
      some ((n.datum, value) :: entries, after)
    else none

end

end Scorecard.Yaml
