import Scorecard.Text.Digit
import Scorecard.Text.Space

/-!
# Reading decimal numbers

A numeral is a sign, digits with at most one point among or around them, and an exponent; its value
is the double nearest to the decimal it denotes. People's numbers are read more freely: surrounded
by blanks, in the digits of any script, with single underscores between digits, and with words for
infinity and not-a-number.
-/

namespace Scorecard.Decimal

open Scorecard.Text (isSpace decimalValue? trimWhile)

/-- A decimal as it is written: `± digits * 10 ^ exponent`. -/
structure Numeral where
  /-- The sign. -/
  negative : Bool
  /-- The digits, as one number. -/
  digits : Nat
  /-- The power of ten of the last digit. -/
  exponent : Int
  deriving DecidableEq, Repr

/-- The number that a list of ASCII digits denotes. -/
def natOfDigits (cs : List Char) : Nat :=
  cs.foldl (fun n c => 10 * n + (c.toNat - 48)) 0

/-- The double of a sign and a magnitude. -/
def signed (negative : Bool) (magnitude : Float) : Float :=
  if negative then -magnitude else magnitude

/-- The positive infinity. -/
def infinity : Float := Float.ofBits 0x7FF0000000000000

/-- The double nearest to `digits * 10 ^ exponent`. Decimals beyond `10 ^ 310` are infinite and
those below `10 ^ -400` are zero, so that a long exponent costs no time. -/
def nearestDouble (digits : Nat) (exponent : Int) : Float :=
  let magnitude := exponent + (Nat.log2 digits / 3 + 1 : Nat)
  if digits = 0 then 0.0
  else if 310 < exponent then infinity
  else if magnitude < -400 then 0.0
  else if 0 ≤ exponent then Float.ofScientific digits false exponent.toNat
  else Float.ofScientific digits true (-exponent).toNat

/-- The double nearest to a numeral. -/
def Numeral.toFloat (n : Numeral) : Float :=
  signed n.negative (nearestDouble n.digits n.exponent)

/-- A sign at the front, and the rest. -/
def takeSign : List Char → Bool × List Char
  | '-' :: cs => (true, cs)
  | '+' :: cs => (false, cs)
  | cs => (false, cs)

/-- The exponent part: nothing, or `e` with a sign and digits, up to the end. -/
def exponent? : List Char → Option Int
  | [] => some 0
  | c :: cs =>
    let (negative, digits) := takeSign cs
    if (c = 'e' || c = 'E') && !digits.isEmpty && digits.all Char.isDigit then
      some (if negative then -(natOfDigits digits : Int) else natOfDigits digits)
    else none

/-- A numeral without its sign. -/
def unsigned? (cs : List Char) : Option (Nat × Int) :=
  let whole := cs.takeWhile Char.isDigit
  let rest := cs.dropWhile Char.isDigit
  let (fraction, rest) :=
    match rest with
    | '.' :: rest => (rest.takeWhile Char.isDigit, rest.dropWhile Char.isDigit)
    | rest => ([], rest)
  if whole.isEmpty && fraction.isEmpty then none
  else
    (exponent? rest).map fun exponent =>
      (natOfDigits (whole ++ fraction), exponent - fraction.length)

/-- A numeral: a sign or none, digits with at most one point, an exponent or none. -/
def numeral? (cs : List Char) : Option Numeral :=
  let (negative, rest) := takeSign cs
  (unsigned? rest).map fun (digits, exponent) => ⟨negative, digits, exponent⟩

/-- The words for doubles that are no finite numbers, in any letter case of ASCII. -/
def special? (cs : List Char) : Option Float :=
  let word := String.ofList (cs.map Char.toLower)
  if word = "inf" || word = "infinity" then some infinity
  else if word = "nan" then some (Float.ofBits 0x7FF8000000000000)
  else none

/-- The double that a plain text of ASCII denotes: a numeral, an infinity or not-a-number. -/
def plainDouble? (cs : List Char) : Option Float :=
  let (negative, rest) := takeSign cs
  match special? rest with
  | some x => some (signed negative x)
  | none => (numeral? cs).map Numeral.toFloat

/-- The blanks that may surround a number: white space without the information separators. -/
def isNumberBlank (c : Char) : Bool :=
  isSpace c && !(28 ≤ c.toNat && c.toNat ≤ 31)

/-- The ASCII form of a character in a number: a digit of any script becomes a digit of ASCII. -/
def asciiDigitForm (c : Char) : Char :=
  match decimalValue? c with
  | some n => Char.ofNat (48 + n)
  | none => c

/-- The text without its underscores; there is none unless each of them stands between two
digits. The first argument is the character before. -/
def dropUnderscores? : (before : Char) → List Char → Option (List Char)
  | _, [] => some []
  | before, '_' :: cs =>
    match cs with
    | next :: _ => if before.isDigit && next.isDigit then dropUnderscores? '_' cs else none
    | [] => none
  | _, c :: cs => (dropUnderscores? c cs).map (c :: ·)

/-- The double that a person's text denotes, if it denotes one. -/
def double? (s : List Char) : Option Float := do
  let cs := (trimWhile isNumberBlank s).map asciiDigitForm
  plainDouble? (← dropUnderscores? ' ' cs)

end Scorecard.Decimal
