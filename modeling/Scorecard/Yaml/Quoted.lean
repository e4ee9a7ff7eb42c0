import Scorecard.Json.Reader
import Scorecard.Yaml.Cursor

/-!
# Quoted scalars of YAML

Between single quotes a quote is written twice, and between double quotes there are escapes. A
scalar may go over line ends; a single one stands for a blank.
-/

namespace Scorecard.Yaml

/-- What an escape of one letter between double quotes stands for. -/
def simpleEscape? (c : Char) : Option Char :=
  [('0', '\x00'), ('a', '\x07'), ('b', '\x08'), ('t', '\t'), ('\t', '\t'), ('n', '\n'),
    ('v', '\x0b'), ('f', '\x0c'), ('r', '\r'), ('e', '\x1b'), (' ', ' '), ('"', '"'), ('/', '/'),
    ('\\', '\\'), ('N', '\u0085'), ('_', '\u00a0'), ('L', '\u2028'), ('P', '\u2029')].lookup c

/-- The number of digits of an escape by code point. -/
def codeWidth? (c : Char) : Option Nat :=
  [('x', 2), ('u', 4), ('U', 8)].lookup c

/-- The number that digits of base sixteen denote. -/
def hexNumber? (cs : List Char) : Option Nat :=
  cs.foldlM (fun n c => (Json.hexValue? c).map (16 * n + ·)) 0

/-- Blanks and line ends between quotes, folded: the text for them, whether there was a line end,
and what follows, which must not be a line that starts or ends a document. A line end that was
escaped stands for nothing. -/
def quotedGap (escaped : Bool) (cs : List Char) : Option (List Char × Bool × List Char) :=
  let gap := cs.takeWhile fun c => c = ' ' || c = '\t' || c = '\n'
  let rest := cs.drop gap.length
  let count := gap.count '\n'
  if count = 0 then some (gap, false, rest)
  else if gap.getLast? = some '\n' && startsMarker rest then none
  else if escaped && count = 1 then some ([], true, rest)
  else some (folded count, true, rest)

/-- The text between single quotes, where two quotes are one; what follows, and whether a line
ended. -/
def singleQuoted : (fuel : Nat) → List Char → Option (List Char × List Char × Bool)
  | 0, _ => none
  | fuel + 1, cs =>
    match cs with
    | [] => none
    | '\'' :: '\'' :: cs => (singleQuoted fuel cs).map fun (text, rest) => ('\'' :: text, rest)
    | '\'' :: cs => some ([], cs, false)
    | c :: cs =>
      if atGap (c :: cs) then do
        let (gap, crossed, rest) ← quotedGap false (c :: cs)
        let (text, rest, multiline) ← singleQuoted fuel rest
        some (gap ++ text, rest, crossed || multiline)
      else (singleQuoted fuel cs).map fun (text, rest) => (c :: text, rest)

/-- The text between double quotes, with escapes; what follows, and whether a line ended. -/
def doubleQuoted : (fuel : Nat) → List Char → Option (List Char × List Char × Bool)
  | 0, _ => none
  | fuel + 1, cs =>
    match cs with
    | [] => none
    | '"' :: cs => some ([], cs, false)
    | '\\' :: '\n' :: cs => do
      let (gap, _, rest) ← quotedGap true ('\n' :: cs)
      let (text, rest, _) ← doubleQuoted fuel rest
      some (gap ++ text, rest, true)
    | '\\' :: c :: cs =>
      match simpleEscape? c, codeWidth? c with
      | some e, _ => (doubleQuoted fuel cs).map fun (text, rest) => (e :: text, rest)
      | none, some width => do
        let digits := cs.take width
        if digits.length < width then none
        let code ← hexNumber? digits
        let (text, rest) ← doubleQuoted fuel (cs.drop width)
        some (Char.ofNat code :: text, rest)
      | none, none => none
    | c :: cs =>
      if atGap (c :: cs) then do
        let (gap, crossed, rest) ← quotedGap false (c :: cs)
        let (text, rest, multiline) ← doubleQuoted fuel rest
        some (gap ++ text, rest, crossed || multiline)
      else (doubleQuoted fuel cs).map fun (text, rest) => (c :: text, rest)

end Scorecard.Yaml
