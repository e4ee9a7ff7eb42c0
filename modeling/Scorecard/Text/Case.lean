import Scorecard.Text.CaseTable
import Scorecard.Text.Space

/-!
# Letter case

`lower` and `upper` are the full case mappings of Unicode: a character may turn into several
(`ß` is `SS` in upper case), and a capital sigma becomes the final form `ς` exactly at the end of a
word. `fold` is the form under which identifiers are compared: trimmed, in lower case.
-/

namespace Scorecard.Text

/-- The first run that moves `n` says where it goes; other code points stay. -/
def CaseRun.applyAll (runs : List CaseRun) (n : Nat) : Nat :=
  (runs.findSome? (·.image? n)).getD n

/-- The upper-case form of one character. -/
def upperChar (c : Char) : List Char :=
  if c.toNat < 128 then [c.toUpper]
  else
    match upperExpansions.lookup c.toNat with
    | some codes => codes.map Char.ofNat
    | none => [Char.ofNat (CaseRun.applyAll upperRuns c.toNat)]

/-- The lower-case form of one character, a capital sigma apart. -/
def lowerChar (c : Char) : List Char :=
  if c.toNat < 128 then [c.toLower]
  else if c = 'İ' then ['i', '\u0307']
  else [Char.ofNat (CaseRun.applyAll lowerRuns c.toNat)]

/-- The nearest character that is not passed over has case. -/
def casedFirst (cs : List Char) : Bool :=
  match cs.dropWhile fun c => caseIgnorable.contains c.toNat with
  | [] => false
  | c :: _ => casedLetters.contains c.toNat

/-- The lower-case form of `cs`, where `before` holds the characters to its left, nearest first. A
capital sigma with a letter before it and none after it takes the final form. -/
def lowerAfter (before : List Char) : List Char → List Char
  | [] => []
  | c :: cs =>
    let form :=
      if c = 'Σ' then [if casedFirst before && !casedFirst cs then 'ς' else 'σ']
      else lowerChar c
    form ++ lowerAfter (c :: before) cs

/-- A text in lower case. -/
def lower (s : String) : String :=
  String.ofList (lowerAfter [] s.toList)

/-- A text in upper case. -/
def upper (s : String) : String :=
  String.ofList (s.toList.flatMap upperChar)

/-- The form in which identifiers are compared: without surrounding white space, in lower case. -/
def fold (s : String) : String :=
  lower (trim s)

end Scorecard.Text
