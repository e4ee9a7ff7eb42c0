import Scorecard.Datum

/-!
# Reading JSON

A JSON text becomes a datum. Numbers with a point or an exponent are doubles and the others whole
numbers, which must not have too many digits; the words `NaN`, `Infinity` and `-Infinity` are
doubles too. A name that occurs twice in an object keeps its first place and its last value. Only
the four blanks of JSON may stand between tokens.
-/

namespace Scorecard.Json

open Scorecard.Decimal (natOfDigits numeral? infinity)

/-- The blanks of JSON. -/
def isBlank (c : Char) : Bool :=
  c = ' ' || c = '\t' || c = '\n' || c = '\r'

/-- The characters from the first one that is no blank. -/
def skip (cs : List Char) : List Char :=
  cs.dropWhile isBlank

/-- The value of a digit of base sixteen. -/
def hexValue? (c : Char) : Option Nat :=
  if c.isDigit then some (c.toNat - 48)
  else if 'a' ≤ c && c ≤ 'f' then some (c.toNat - 87)
  else if 'A' ≤ c && c ≤ 'F' then some (c.toNat - 55)
  else none

/-- The number of four digits of base sixteen. -/
def hexQuad? (a b c d : Char) : Option Nat := do
  some (4096 * (← hexValue? a) + 256 * (← hexValue? b) + 16 * (← hexValue? c) + (← hexValue? d))

/-- The character of an escape of one letter. -/
def simpleEscape? : Char → Option Nat
  | '"' => some 34
  | '\\' => some 92
  | '/' => some 47
  | 'b' => some 8
  | 'f' => some 12
  | 'n' => some 10
  | 'r' => some 13
  | 't' => some 9
  | _ => none

/-- The code units of a string after its opening quote, and what follows the closing one. Control
characters have to be escaped. -/
def stringUnits : List Char → Option (List Nat × List Char)
  | [] => none
  | '"' :: rest => some ([], rest)
  | '\\' :: 'u' :: a :: b :: c :: d :: rest => do
    let unit ← hexQuad? a b c d
    let (units, rest) ← stringUnits rest
    some (unit :: units, rest)
  | '\\' :: c :: rest => do
    let unit ← simpleEscape? c
    let (units, rest) ← stringUnits rest
    some (unit :: units, rest)
  | c :: rest => do
    if c.toNat < 32 || c = '\\' then none
    let (units, rest) ← stringUnits rest
    some (c.toNat :: units, rest)

/-- The characters of code units: two surrogates in a row are one character. -/
def joinUnits : List Nat → List Char
  | high :: low :: rest =>
    if 0xD800 ≤ high && high < 0xDC00 && 0xDC00 ≤ low && low < 0xE000 then
      Char.ofNat (0x10000 + 0x400 * (high - 0xD800) + (low - 0xDC00)) :: joinUnits rest
    else Char.ofNat high :: joinUnits (low :: rest)
  | [unit] => [Char.ofNat unit]
  | [] => []

/-- A string after its opening quote. -/
def stringAfterQuote (cs : List Char) : Option (String × List Char) :=
  (stringUnits cs).map fun (units, rest) => (String.ofList (joinUnits units), rest)

/-- The whole part of a number: digits without a zero in front. -/
def wholePart? : List Char → Option (List Char × List Char)
  | '0' :: rest => some (['0'], rest)
  | cs =>
    match cs.takeWhile Char.isDigit with
    | [] => none
    | digits => some (digits, cs.dropWhile Char.isDigit)

/-- The part of a number after its point; nothing without a point that digits follow. -/
def fractionPart : List Char → List Char × List Char
  | '.' :: rest =>
    match rest.takeWhile Char.isDigit with
    | [] => ([], '.' :: rest)
    | digits => ('.' :: digits, rest.dropWhile Char.isDigit)
  | cs => ([], cs)

/-- The exponent of a number; nothing without an `e` that a sign or none and digits follow. -/
def exponentPart (cs : List Char) : List Char × List Char :=
  match cs with
  | e :: rest =>
    if e = 'e' || e = 'E' then
      let (sign, digits) :=
        match rest with
        | '+' :: rest => (['+'], rest)
        | '-' :: rest => (['-'], rest)
        | rest => ([], rest)
      match digits.takeWhile Char.isDigit with
      | [] => ([], cs)
      | exponent => (e :: sign ++ exponent, digits.dropWhile Char.isDigit)
    else ([], cs)
  | [] => ([], [])

/-- A number without its sign. -/
def magnitude? (negative : Bool) (cs : List Char) : Option (Datum × List Char) := do
  let (whole, rest) ← wholePart? cs
  let (fraction, rest) := fractionPart rest
  let (exponent, rest) := exponentPart rest
  if fraction.isEmpty && exponent.isEmpty then
    if Text.longestNumber < whole.length then none
    let n : Int := natOfDigits whole
    some (.int (if negative then -n else n), rest)
  else
    let n ← numeral? (whole ++ fraction ++ exponent)
    some (.float (Decimal.signed negative n.toFloat), rest)

/-- A number. -/
def number? : List Char → Option (Datum × List Char)
  | '-' :: 'I' :: 'n' :: 'f' :: 'i' :: 'n' :: 'i' :: 't' :: 'y' :: rest =>
    some (.float (-infinity), rest)
  | '-' :: cs => magnitude? true cs
  | cs => magnitude? false cs

mutual

/-- A value at the front of the text. Every call reads a character at least, or is followed by one
that does, so twice the length of the text is `fuel` enough. -/
def value? : (fuel : Nat) → List Char → Option (Datum × List Char)
  | 0, _ => none
  | fuel + 1, cs =>
    match cs with
    | '"' :: rest => (stringAfterQuote rest).map fun (s, rest) => (.text s, rest)
    | '\x7b' :: rest =>
      match skip rest with
      | '\x7d' :: rest => some (.record [], rest)
      | rest =>
        (fields? fuel rest).map fun (fields, rest) =>
          (.record ((Assoc.ofList fields).map fun (name, d) => (.text name, d)), rest)
    | '[' :: rest =>
      match skip rest with
      | ']' :: rest => some (.list [], rest)
      | rest => (items? fuel rest).map fun (items, rest) => (.list items, rest)
    | 'n' :: 'u' :: 'l' :: 'l' :: rest => some (.null, rest)
    | 't' :: 'r' :: 'u' :: 'e' :: rest => some (.bool true, rest)
    | 'f' :: 'a' :: 'l' :: 's' :: 'e' :: rest => some (.bool false, rest)
    | 'N' :: 'a' :: 'N' :: rest => some (.float (Float.ofBits 0x7FF8000000000000), rest)
    | 'I' :: 'n' :: 'f' :: 'i' :: 'n' :: 'i' :: 't' :: 'y' :: rest => some (.float infinity, rest)
    | cs => number? cs

/-- The values of an array, from its first one to the closing bracket. -/
def items? : (fuel : Nat) → List Char → Option (List Datum × List Char)
  | 0, _ => none
  | fuel + 1, cs => do
    let (item, rest) ← value? fuel cs
    match skip rest with
    | ']' :: rest => some ([item], rest)
    | ',' :: rest =>
      let (items, rest) ← items? fuel (skip rest)
      some (item :: items, rest)
    | _ => none

/-- The entries of an object, from its first one to the closing brace. -/
def fields? : (fuel : Nat) → List Char → Option (List (String × Datum) × List Char)
  | 0, _ => none
  | fuel + 1, cs => do
    match cs with
    | '"' :: rest =>
      let (name, rest) ← stringAfterQuote rest
      match skip rest with
      | ':' :: rest =>
        let (d, rest) ← value? fuel (skip rest)
        match skip rest with
        | '\x7d' :: rest => some ([(name, d)], rest)
        | ',' :: rest =>
          let (fields, rest) ← fields? fuel (skip rest)
          some ((name, d) :: fields, rest)
        | _ => none
      | _ => none
    | _ => none

end

/-- The datum of a JSON text; nothing if the text is no JSON. -/
def read? (s : String) : Option Datum := do
  let cs := skip s.toList
  let (d, rest) ← value? (2 * cs.length + 2) cs
  if (skip rest).isEmpty then some d else none

end Scorecard.Json
