import Scorecard.Text.Quoted

/-!
# What stops an operation

Most bad input only degrades its own row or rule. A few causes end the operation in which they
arise; they are the values of `Fault`, and `Fault.message` words them.
-/

namespace Scorecard

/-- A cause that ends an operation without a result. -/
inductive Fault where
  /-- A whole number beyond the range of doubles. -/
  | integerTooLarge
  /-- A number of decimal places below zero. -/
  | negativePlaces
  /-- A number of decimal places above the most that a figure may have. -/
  | tooManyPlaces (places : Nat)
  /-- A period divisor of zero. -/
  | zeroDivisor
  /-- A configuration row that is not a mapping. -/
  | rowNotMapping
  /-- A whole number that has too many digits to be written. -/
  | numberTooLong
  /-- A number at the end of a column name that has too many digits to be read. -/
  | ordinalTooLong (digits : Nat)
  /-- A number at the end of a column name whose digits are not decimal digits. -/
  | unreadableOrdinal (digits : String)
  /-- A text that names no rating. -/
  | unknownRating (text : String)
  /-- A text that names no direction. -/
  | unknownDirection (text : String)
  /-- Data that are no collection where one is wanted. -/
  | notCollection
  /-- A check that is run without one of its arguments. -/
  | argumentMissing
  /-- A comparison with a number that is not there. -/
  | numberMissing
  deriving DecidableEq, Repr

/-- The wording of a fault. -/
def Fault.message : Fault → String
  | .integerTooLarge => "Integer too large for a double"
  | .negativePlaces => "Format specifier missing precision"
  | .tooManyPlaces places =>
    -- A number beyond a machine word is not read at all.
    if places < 9223372036854775808 then "precision too big"
    else "Too many decimal digits in format string"
  | .zeroDivisor => "Division by zero"
  | .rowNotMapping => "Config rows must be mappings of column name to value."
  | .numberTooLong =>
    "Exceeds the limit (4300 digits) for integer string conversion; " ++
      "use sys.set_int_max_str_digits() to increase the limit"
  | .ordinalTooLong digits =>
    "Exceeds the limit (4300 digits) for integer string conversion: value has " ++ digits.repr ++
      " digits; use sys.set_int_max_str_digits() to increase the limit"
  | .unreadableOrdinal digits =>
    -- Of a long text only the first part is shown.
    "invalid literal for int() with base 10: " ++ (Text.quoted digits).take 200
  | .unknownRating text => "Unknown rating '" ++ text ++ "'"
  | .unknownDirection text =>
    "direction must be 'higher' or 'lower', got " ++ Text.quoted text
  | .notCollection => "Not a collection"
  | .argumentMissing => "Argument missing"
  | .numberMissing => "Number missing"

end Scorecard
