import Scorecard.Datum
import Scorecard.Text.Split

/-!
# Plain scalars of YAML

What a scalar without quotes stands for is told by its spelling: no value, a truth value, a whole
number in one of several bases, a double, or else the text itself. A double needs a point, and its
exponent a sign.
-/

namespace Scorecard.Yaml

open Scorecard.Decimal (infinity natOfDigits takeSign unsigned? signed nearestDouble)

/-- The words for no value. -/
def nullWords : List String :=
  ["", "~", "null", "Null", "NULL"]

/-- The words for truth. -/
def trueWords : List String :=
  ["yes", "Yes", "YES", "true", "True", "TRUE", "on", "On", "ON"]

/-- The words for falsehood. -/
def falseWords : List String :=
  ["no", "No", "NO", "false", "False", "FALSE", "off", "Off", "OFF"]

/-- The number of the digits of a base, among which underscores do not count. -/
def inBase (base : Nat) (cs : List Char) : Nat :=
  (cs.filter (· != '_')).foldl (fun n c =>
    base * n + (if c.isDigit then c.toNat - 48 else c.toLower.toNat - 87)) 0

/-- The characters of digits with underscores among them. -/
def isDigitOrFiller (c : Char) : Bool :=
  c.isDigit || c = '_'

/-- A part of a number of base sixty after its first colon: one or two digits below sixty. -/
def sexagesimalPart? (cs : List Char) : Option Nat :=
  match cs with
  | [d] => if d.isDigit then some (natOfDigits cs) else none
  | [t, d] => if '0' ≤ t && t ≤ '5' && d.isDigit then some (natOfDigits cs) else none
  | _ => none

/-- The number of digits in base sixty, of which there are two or more between colons. -/
def sexagesimal? (cs : List Char) : Option Nat :=
  match Text.pieces ':' cs with
  | first :: second :: rest =>
    if first.head?.any Char.isDigit && first.all isDigitOrFiller then
      (second :: rest).foldlM (fun n part => (sexagesimalPart? part).map (60 * n + ·))
        (inBase 10 first)
    else none
  | _ => none

/-- A whole number without its sign. -/
def magnitude? (cs : List Char) : Option Nat :=
  match cs with
  | ['0'] => some 0
  | '0' :: 'b' :: d :: ds =>
    if (d :: ds).all fun c => c = '0' || c = '1' || c = '_' then some (inBase 2 (d :: ds)) else none
  | '0' :: 'x' :: d :: ds =>
    if (d :: ds).all fun c =>
        isDigitOrFiller c || ('a' ≤ c.toLower && c.toLower ≤ 'f') then
      some (inBase 16 (d :: ds))
    else none
  | '0' :: ds =>
    if ds.all fun c => ('0' ≤ c && c ≤ '7') || c = '_' then some (inBase 8 ds) else none
  | c :: _ =>
    if c.isDigit then
      if cs.all isDigitOrFiller then some (inBase 10 cs) else sexagesimal? cs
    else none
  | [] => none

/-- A whole number. -/
def int? (cs : List Char) : Option Int :=
  let (negative, rest) := takeSign cs
  (magnitude? rest).map fun n => if negative then -n else n

/-- Whether a text is a whole number in base ten or sixty whose first part has too many digits. -/
def isTooLong (cs : List Char) : Bool :=
  match (takeSign cs).2 with
  | '0' :: _ => false
  | rest =>
    let digits := (rest.takeWhile isDigitOrFiller).filter (· != '_')
    (magnitude? rest).isSome && Text.longestNumber < digits.length

/-- Whether a text is an exponent with a sign, or empty. -/
def isSignedExponent : List Char → Bool
  | [] => true
  | e :: sign :: digits =>
    (e = 'e' || e = 'E') && (sign = '+' || sign = '-') && !digits.isEmpty &&
      digits.all Char.isDigit
  | _ => false

/-- A double of base ten or sixty without its sign. -/
def positiveDouble? (cs : List Char) : Option Float :=
  let whole := cs.takeWhile fun c => isDigitOrFiller c || c = ':'
  match cs.dropWhile fun c => isDigitOrFiller c || c = ':' with
  | '.' :: rest =>
    let fraction := rest.takeWhile isDigitOrFiller
    let exponent := rest.dropWhile isDigitOrFiller
    let digits := (fraction.filter (· != '_'))
    if whole.contains ':' then
      if exponent.isEmpty then
        (sexagesimal? whole).map fun n =>
          nearestDouble (n * Nat.pow 10 digits.length + natOfDigits digits) (-digits.length)
      else none
    else if isSignedExponent exponent &&
        (whole.head?.any Char.isDigit || (whole.isEmpty && fraction.head?.any Char.isDigit)) then
      (unsigned? ((whole.filter (· != '_')) ++ '.' :: digits ++ exponent)).map fun (n, e) =>
        nearestDouble n e
    else none
  | _ => none

/-- The spellings of infinity, without a sign. -/
def infinityWords : List String :=
  [".inf", ".Inf", ".INF"]

/-- The spellings of not-a-number. -/
def nanWords : List String :=
  [".nan", ".NaN", ".NAN"]

/-- A double. One that starts with its point has no sign. -/
def double? (s : String) : Option Float :=
  let cs := s.toList
  let (negative, rest) := takeSign cs
  if nanWords.contains s then some (Float.ofBits 0x7FF8000000000000)
  else if infinityWords.contains (String.ofList rest) then some (signed negative infinity)
  else if rest.head? = some '.' && rest.length < cs.length then none
  else (positiveDouble? rest).map (signed negative)

/-- The spellings that stand for no datum of their own. -/
def reservedWords : List String :=
  ["=", "<<"]

/-- The datum of a scalar without quotes. -/
def plain (s : String) : Datum :=
  if nullWords.contains s then .null
  else if trueWords.contains s then .bool true
  else if falseWords.contains s then .bool false
  else
    match int? s.toList with
    | some n => .int n
    | none =>
      match double? s with
      | some x => .float x
      | none => .text s

/-- The datum of a scalar without quotes, if it may stand for one. -/
def plain? (s : String) : Option Datum :=
  if reservedWords.contains s || isTooLong s.toList then none else some (plain s)

end Scorecard.Yaml
