/-!
# The value of a double

A finite double is an integer times a power of two, with a sign of its own (there are two zeros).
All decimal text is computed from this exact value, never from rounded arithmetic.
-/

namespace Scorecard.Decimal

/-- A signed integer times a power of two: `± mantissa * 2 ^ exponent`. -/
structure Binary where
  /-- The sign, which a zero has too. -/
  negative : Bool
  /-- The magnitude in units of `2 ^ exponent`. -/
  mantissa : Nat
  /-- The exponent of the unit. -/
  exponent : Int
  deriving DecidableEq, Repr

/-- What a double stands for. -/
inductive View where
  /-- Not a number. -/
  | nan
  /-- An infinity. -/
  | infinite (negative : Bool)
  /-- A number. -/
  | finite (value : Binary)
  deriving DecidableEq, Repr

/-- A double taken apart: one bit of sign, eleven of exponent, fifty-two of fraction. -/
def view (x : Float) : View :=
  let bits := x.toBits.toNat
  let negative := decide (Nat.pow 2 63 ≤ bits)
  let field : Nat := bits / Nat.pow 2 52 % Nat.pow 2 11
  let fraction : Nat := bits % Nat.pow 2 52
  if field = 2047 then
    if fraction = 0 then .infinite negative else .nan
  else if field = 0 then .finite ⟨negative, fraction, -1074⟩
  else .finite ⟨negative, Nat.pow 2 52 + fraction, (field : Int) - 1075⟩

/-- The numerator of the magnitude, over `Binary.denominator`. -/
def Binary.numerator (b : Binary) : Nat :=
  b.mantissa * Nat.pow 2 b.exponent.toNat

/-- The denominator of the magnitude: a power of two. -/
def Binary.denominator (b : Binary) : Nat :=
  Nat.pow 2 (-b.exponent).toNat

/-- The whole part: the value without what is after the point. -/
def Binary.truncate (b : Binary) : Int :=
  let magnitude : Int := b.numerator / b.denominator
  if b.negative then -magnitude else magnitude

/-- Whether nothing is after the point. -/
def Binary.isWhole (b : Binary) : Bool :=
  b.numerator % b.denominator = 0

/-- The whole part of a double; zero for those that are no numbers. -/
def truncate (x : Float) : Int :=
  match view x with
  | .finite b => b.truncate
  | _ => 0

theorem Binary.denominator_pos (b : Binary) : 0 < b.denominator :=
  Nat.two_pow_pos _

end Scorecard.Decimal
