import Scorecard.Yaml.Quoted
import Scorecard.Yaml.Scalar

/-!
# Scalars and keys in a YAML document

A scalar without quotes ends where a comment, a colon with a gap after it or, between brackets, an
indicator starts. It may go over line ends as long as the next lines are indented enough.
-/

namespace Scorecard.Yaml

/-- The characters that have a meaning between brackets. -/
def isFlowIndicator (c : Char) : Bool :=
  c = ',' || c = '[' || c = ']' || c = '\x7b' || c = '\x7d'

/-- Whether a plain scalar may start here. -/
def startsPlain (flow : Bool) : List Char → Bool
  | [] => false
  | c :: cs =>
    if c = '-' then !atGap cs
    else if c = '?' || c = ':' then !flow && !atGap cs
    else !atGap (c :: cs) && !isFlowIndicator c &&
      !"#&*!|>'\"%@`".toList.contains c

/-- The part of a plain scalar up to a blank, a line end, or an indicator. -/
def plainPart (flow : Bool) : List Char → List Char
  | [] => []
  | c :: cs =>
    if atGap (c :: cs) || (flow && (isFlowIndicator c || c = '?')) ||
        (c = ':' && (atGap cs || (flow && cs.head?.any isFlowIndicator))) then []
    else c :: plainPart flow cs

/-- A scalar, the place after it, and whether it went over a line end. -/
structure Scalar where
  /-- The text. -/
  text : List Char
  /-- The place after it. -/
  after : Cursor
  /-- Whether it went over a line end. -/
  multiline : Bool

/-- A plain scalar. It goes on after blanks and, in lines that are indented by `indent` columns at
least, after line ends; `fuel` bounds the number of its parts. -/
def plainScalar (flow : Bool) (indent : Nat) : (fuel : Nat) → Cursor → Scalar
  | 0, c => ⟨[], c, false⟩
  | fuel + 1, c =>
    let part := plainPart flow c.rest
    let after := c.forward part.length
    let blanks := after.rest.takeWhile (· = ' ')
    let next := after.forward blanks.length
    let (gap, next, crossed) :=
      match next.rest with
      | '\n' :: _ =>
        let (count, next) := lineEnds 0 next.column next.rest
        (folded count, next, true)
      | _ => (blanks, next, false)
    if gap.isEmpty || next.rest.head? = some '#' || (plainPart flow next.rest).isEmpty ||
        (crossed && (atMarker next || (!flow && next.column < indent))) then
      ⟨part, after, false⟩
    else
      let more := plainScalar flow indent fuel next
      ⟨part ++ gap ++ more.text, more.after, crossed || more.multiline⟩

/-- A node, the place after it, and whether it went over a line end. -/
structure Node where
  /-- What it stands for. -/
  datum : Datum
  /-- The place after it. -/
  after : Cursor
  /-- Whether it went over a line end. -/
  multiline : Bool

/-- A scalar; plain ones go on in lines that are indented by `indent` columns at least. -/
def scalar? (flow : Bool) (indent : Nat) (c : Cursor) : Option Node :=
  let quotedNode (body : Option (List Char × List Char × Bool)) : Option Node :=
    body.map fun (text, rest, multiline) =>
      ⟨.text (String.ofList text), ⟨rest, c.column + (c.rest.length - rest.length), false⟩,
        multiline⟩
  match c.rest with
  | '\'' :: cs => quotedNode (singleQuoted (cs.length + 1) cs)
  | '"' :: cs => quotedNode (doubleQuoted (cs.length + 1) cs)
  | cs =>
    if startsPlain flow cs then do
      let s := plainScalar flow indent cs.length c
      some ⟨← plain? (String.ofList s.text), s.after, s.multiline⟩
    else none

/-- Whether a datum may be the key of a mapping. -/
def isKey : Datum → Bool
  | .list _ | .record _ => false
  | _ => true

/-- A mapping, each key at its first place with its last value; nothing if a collection is a
key. -/
def mapping? (entries : List (Datum × Datum)) : Option Datum :=
  if entries.all (isKey ·.1) then some (.record (Assoc.ofList entries)) else none

end Scorecard.Yaml
