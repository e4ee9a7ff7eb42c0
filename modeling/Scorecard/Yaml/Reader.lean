import Scorecard.Yaml.Block

/-!
# Reading YAML

The documents that settings are written in: mappings and sequences by indentation or between
brackets, scalars plain or between quotes, and comments. A text holds one document, perhaps after a
line of three dashes and before lines of three points. What is malformed is refused.
-/

namespace Scorecard.Yaml

/-- Whether a character may stand in a document. -/
def isAllowed (c : Char) : Bool :=
  let n := c.toNat
  n = 9 || n = 10 || n = 13 || (0x20 ≤ n && n ≤ 0x7E) || n = 0x85 || (0xA0 ≤ n && n ≤ 0xFFFD) ||
    0x10000 ≤ n

/-- The characters with one sign for the end of a line. -/
def withLineFeeds : List Char → List Char
  | '\r' :: '\n' :: cs => '\n' :: withLineFeeds cs
  | '\r' :: cs => '\n' :: withLineFeeds cs
  | '\u0085' :: cs => '\n' :: withLineFeeds cs
  | c :: cs => c :: withLineFeeds cs
  | [] => []

/-- Whether a line with three points is here. -/
def atEnd (c : Cursor) : Bool :=
  atMarker c && c.rest.head? = some '.'

/-- Whether nothing follows but lines with three points, of which there are fewer than `fuel`. -/
def finished : (fuel : Nat) → Cursor → Bool
  | 0, _ => false
  | fuel + 1, c => c.rest.isEmpty || (atEnd c && finished fuel (c.forward 3).token)

/-- The node of a document at its first token. In the line of three dashes it is a scalar or between
brackets. -/
def rootNode? (fuel : Nat) (c : Cursor) : Option (Datum × Cursor) :=
  if c.fresh then blockNode? fuel 0 c
  else do
    let n ← inlineNode? 0 c
    some (n.datum, ← nextLine? n.after)

/-- The datum of a document; no value for an empty one, and nothing for a malformed one. -/
def read? (s : String) : Option Datum := do
  let cs := match s.toList with
    | '\ufeff' :: cs => cs
    | cs => cs
  if !cs.all isAllowed then none
  let fuel := 4 * cs.length + 4
  let first := { (⟨withLineFeeds cs, 0, true⟩ : Cursor).token with fresh := true }
  let marked := atMarker first && !atEnd first
  let start := if marked then (first.forward 3).token else first
  if start.rest.isEmpty then some .null
  else if atMarker start then
    if marked && atEnd start && finished fuel start then some .null else none
  else do
    let (d, next) ← rootNode? fuel start
    if finished fuel next then some d else none

end Scorecard.Yaml
