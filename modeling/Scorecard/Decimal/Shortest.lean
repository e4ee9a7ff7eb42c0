import Scorecard.Decimal.Fixed

/-!
# The shortest decimal of a double

A double is written with the fewest significant digits that read back as the same double; among
the decimals of that length the nearest one is taken, and of two equally near ones the one with
the even last digit. The search is exact: for one digit, two digits and so on, the two decimals of
that length around the value are compared with the interval of reals that round to the double.
-/

namespace Scorecard.Decimal

/-- The reals that round to a positive double: from `low` to `high` in units of
`2 ^ exponent`, with both ends or without. -/
structure Interval where
  /-- The lower end. -/
  low : Nat
  /-- The value of the double itself. -/
  value : Nat
  /-- The upper end. -/
  high : Nat
  /-- The exponent of the unit. -/
  exponent : Int
  /-- Whether the ends belong to it; they do if the double's mantissa is even. -/
  closed : Bool

/-- The interval of a double. The gap below a power of two is half the gap above it, except at the
smallest exponent. -/
def Binary.interval (b : Binary) : Interval where
  low :=
    if b.mantissa = Nat.pow 2 52 ∧ -1074 < b.exponent then 4 * b.mantissa - 1
    else 4 * b.mantissa - 2
  value := 4 * b.mantissa
  high := 4 * b.mantissa + 2
  exponent := b.exponent - 2
  closed := b.mantissa % 2 = 0

/-- The decimal `digits * 10 ^ exponent`. -/
structure Significant where
  /-- The significant digits, as one number. -/
  digits : Nat
  /-- The power of ten of the last of them. -/
  exponent : Int
  deriving DecidableEq, Repr

/-- Whether the decimal lies in the interval. -/
def Interval.contains (i : Interval) (d : Significant) : Bool :=
  let decimal := d.digits * Nat.pow 10 d.exponent.toNat * Nat.pow 2 (-i.exponent).toNat
  let scale := Nat.pow 2 i.exponent.toNat * Nat.pow 10 (-d.exponent).toNat
  if i.closed then i.low * scale ≤ decimal && decimal ≤ i.high * scale
  else i.low * scale < decimal && decimal < i.high * scale

/-- The exponent of the leading decimal digit of a positive quotient. -/
def leadingExponent (num den : Nat) : Int :=
  if den ≤ num then (wholeDigits (num / den)).length - 1
  else
    let length := (wholeDigits (den / num)).length
    if den ≤ num * Nat.pow 10 (length - 1) then 1 - length else -length

/-- The decimal of `count` digits nearest to the double among those in the interval, if one of the
two around its value is. -/
def Interval.nearest? (i : Interval) (leading : Int) (count : Nat) : Option Significant :=
  let exponent := leading + 1 - count
  let num := i.value * Nat.pow 2 i.exponent.toNat * Nat.pow 10 (-exponent).toNat
  let den := Nat.pow 2 (-i.exponent).toNat * Nat.pow 10 exponent.toNat
  let below : Significant := ⟨num / den, exponent⟩
  let above : Significant := ⟨num / den + 1, exponent⟩
  match i.contains below, i.contains above with
  | true, true => some (if roundDiv num den = num / den then below else above)
  | true, false => some below
  | false, true => some above
  | false, false => none

/-- The first decimal found with `count` digits or more, trying `fuel` lengths. -/
def Interval.search (i : Interval) (leading : Int) : (fuel count : Nat) → Significant
  | 0, _ => ⟨i.value, i.exponent⟩
  | fuel + 1, count => (i.nearest? leading count).getD (i.search leading fuel (count + 1))

/-- The shortest decimal that reads back as the double; seventeen digits always do. -/
def Binary.shortest (b : Binary) : Significant :=
  let i := b.interval
  i.search (leadingExponent b.numerator b.denominator) 17 1

/-- Digits without the zeros at their end, where one digit at least remains. -/
def dropTrailingZeros (digits : List Char) : List Char :=
  match (digits.reverse.dropWhile (· = '0')).reverse with
  | [] => ['0']
  | kept => kept

/-- The text of `0.digits * 10 ^ point` for significant digits: positional while the leading
digit's exponent is at least `-4` and less than `16`, with one digit at least on either side of the
point, and otherwise with an exponent of two digits at least. -/
def layOut (digits : List Char) (point : Int) : List Char :=
  let leading := point - 1
  if -4 ≤ leading ∧ leading < 16 then
    if point ≤ 0 then '0' :: '.' :: List.replicate (-point).toNat '0' ++ digits
    else
      let n := point.toNat
      if n < digits.length then digits.take n ++ '.' :: digits.drop n
      else digits ++ List.replicate (n - digits.length) '0' ++ ['.', '0']
  else
    let exponent := wholeDigits leading.natAbs
    let mantissa :=
      match digits with
      | first :: second :: rest => first :: '.' :: second :: rest
      | short => short
    mantissa ++ 'e' :: (if leading < 0 then '-' else '+') ::
      (if exponent.length < 2 then '0' :: exponent else exponent)

/-- The text of a double that reads back as the same double. -/
def shortestText (x : Float) : String :=
  match view x with
  | .nan => "nan"
  | .infinite negative => if negative then "-inf" else "inf"
  | .finite b =>
    let magnitude :=
      if b.mantissa = 0 then "0.0".toList
      else
        let d := b.shortest
        let digits := wholeDigits d.digits
        layOut (dropTrailingZeros digits) (d.exponent + digits.length)
    String.ofList (if b.negative then '-' :: magnitude else magnitude)

end Scorecard.Decimal
