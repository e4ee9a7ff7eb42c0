import Scorecard.Yaml.Node

/-!
# YAML collections between brackets

Sequences between brackets and mappings between braces, their entries between commas. Line ends do
not matter in them.
-/

namespace Scorecard.Yaml

mutual

/-- A node between brackets. -/
def flowNode? : (fuel : Nat) → Cursor → Option Node
  | 0, _ => none
  | fuel + 1, c =>
    match c.rest with
    | '[' :: _ => do
      let (items, after) ← flowItems? fuel (c.forward 1).token
      some ⟨.list items, after, true⟩
    | '\x7b' :: _ => do
      let (entries, after) ← flowEntries? fuel (c.forward 1).token
      some ⟨← mapping? entries, after, true⟩
    | _ => scalar? true 0 c

/-- The value after the colon of an entry between brackets, if there is a colon. -/
def flowValue? : (fuel : Nat) → Cursor → Option (Option Datum × Cursor)
  | 0, _ => none
  | fuel + 1, c =>
    match c.rest with
    | ':' :: _ =>
      let next := (c.forward 1).token
      match next.rest with
      | ',' :: _ | ']' :: _ | '\x7d' :: _ => some (some .null, next)
      | _ => (flowNode? fuel next).map fun n => (some n.datum, n.after.token)
    | _ => some (none, c)

/-- The items of a sequence between brackets, up to the closing one. An entry with a colon is a
mapping of its own. -/
def flowItems? : (fuel : Nat) → Cursor → Option (List Datum × Cursor)
  | 0, _ => none
  | fuel + 1, c =>
    match c.rest with
    | ']' :: _ => some ([], c.forward 1)
    | _ => do
      let n ← flowNode? fuel c
      let (value, next) ← flowValue? fuel n.after.token
      let item ←
        match value with
        | some v => mapping? [(n.datum, v)]
        | none => some n.datum
      match next.rest with
      | ']' :: _ => some ([item], next.forward 1)
      | ',' :: _ => do
        let (items, after) ← flowItems? fuel (next.forward 1).token
        some (item :: items, after)
      | _ => none

/-- The entries of a mapping between braces, up to the closing one. -/
def flowEntries? : (fuel : Nat) → Cursor → Option (List (Datum × Datum) × Cursor)
  | 0, _ => none
  | fuel + 1, c =>
    match c.rest with
    | '\x7d' :: _ => some ([], c.forward 1)
    | _ => do
      let n ← flowNode? fuel c
      let (value, next) ← flowValue? fuel n.after.token
      let entry := (n.datum, value.getD .null)
      match next.rest with
      | '\x7d' :: _ => some ([entry], next.forward 1)
      | ',' :: _ => do
        let (entries, after) ← flowEntries? fuel (next.forward 1).token
        some (entry :: entries, after)
      | _ => none

end

end Scorecard.Yaml
