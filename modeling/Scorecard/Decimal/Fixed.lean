import Scorecard.Decimal.Binary

/-!
# Fixed-point decimals

A double shown with a fixed number of places is first rounded, exactly, to a whole number of units
of `10 ^ -places`; a half goes to the even neighbour. The text of the rounded number is a separate
step: digits, the point, and commas between groups of three digits where they are asked for. A
number with more digits than can be counted in a machine word of 32 bits is shown as zero.

The digits before the point are estimated first, and from `10 ^ 22` on the estimate may be one too
high until it is corrected. Where the digits are exactly as many as can be counted, such an estimate
can end the whole process with a fault of its memory. That is set aside: here the number is shown.
-/

namespace Scorecard.Decimal

/-- The quotient rounded to the nearest whole number, a half to the even one. -/
def roundDiv (num den : Nat) : Nat :=
  let quotient := num / den
  let twice := 2 * (num % den)
  if twice < den then quotient
  else if den < twice then quotient + 1
  else quotient + quotient % 2

/-- A decimal with a fixed number of places: `± units / 10 ^ places`. -/
structure Fixed where
  /-- The sign, which a zero has too. -/
  negative : Bool
  /-- The magnitude in units of the last place. -/
  units : Nat
  /-- The number of places after the point. -/
  places : Nat
  deriving DecidableEq, Repr

/-- The decimal with `places` places nearest to a double's value. -/
def Fixed.round (b : Binary) (places : Nat) : Fixed :=
  ⟨b.negative, roundDiv (b.numerator * Nat.pow 10 places) b.denominator, places⟩

/-- The character of a decimal digit. -/
def digitChar (n : Nat) : Char :=
  Char.ofNat (48 + n)

/-- The last `width` decimal digits of a number, with zeros in front where it has fewer. -/
def lastDigits : (width : Nat) → Nat → List Char
  | 0, _ => []
  | width + 1, n => lastDigits width (n / 10) ++ [digitChar (n % 10)]

/-- The decimal digits of a number, without zeros in front; zero has one digit. -/
def wholeDigits (n : Nat) : List Char :=
  if n < 10 then [digitChar n] else wholeDigits (n / 10) ++ [digitChar (n % 10)]

/-- Digits, last one first, with a comma after every third one that is followed by another. -/
def commasFromEnd : List Char → List Char
  | a :: b :: c :: d :: rest => a :: b :: c :: ',' :: commasFromEnd (d :: rest)
  | digits => digits

/-- Digits with commas between groups of three, counted from the end. -/
def withCommas (digits : List Char) : List Char :=
  (commasFromEnd digits.reverse).reverse

/-- The digits after the point, with the point; nothing if there are no places. -/
def Fixed.fraction (d : Fixed) : List Char :=
  if d.places = 0 then [] else '.' :: lastDigits d.places d.units

/-- The digits before the point. -/
def Fixed.whole (d : Fixed) : List Char :=
  wholeDigits (d.units / Nat.pow 10 d.places)

/-- The text of a fixed-point decimal; every place is written. -/
def Fixed.text (d : Fixed) (commas : Bool) : List Char :=
  (if d.negative then ['-'] else []) ++
    ((if commas then withCommas d.whole else d.whole) ++ d.fraction)

/-- The most digits of a number that can be counted, before the point and after it together. -/
def mostDigits : Nat := 2147483647

/-- The most digits of a whole number that is written without counting them. -/
def uncountedDigits : Nat := 15

/-- How many digits a number has before the point; none if it is below one. -/
def Binary.wholeLength (b : Binary) : Nat :=
  let whole := b.numerator / b.denominator
  if whole = 0 then 0 else (wholeDigits whole).length

/-- Whether a number can be written with `places` places: its digits can be counted, or need not
be. -/
def Binary.isCounted (b : Binary) (places : Nat) : Bool :=
  (b.isWhole && b.wholeLength ≤ uncountedDigits) || b.wholeLength + places ≤ mostDigits

/-- The decimal that is shown for a double's value: the nearest one, or zero if there are too many
digits. -/
def Fixed.shown (b : Binary) (places : Nat) : Fixed :=
  if b.isCounted places then round b places else ⟨b.negative, 0, places⟩

/-- A double with a fixed number of places. -/
def fixedText (x : Float) (places : Nat) (commas : Bool) : List Char :=
  match view x with
  | .nan => "nan".toList
  | .infinite negative => (if negative then "-inf" else "inf").toList
  | .finite b => (Fixed.shown b places).text commas

end Scorecard.Decimal
