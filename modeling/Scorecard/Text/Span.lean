/-!
# Sets of code points

A property of characters that a standard gives by enumeration is kept as a list of spans of code
points, both ends included.
-/

namespace Scorecard.Text

/-- A set of code points as spans `(first, last)`, both ends included. -/
abbrev Spans := List (Nat × Nat)

/-- Whether a code point lies in one of the spans. -/
def Spans.contains (spans : Spans) (n : Nat) : Bool :=
  spans.any fun (first, last) => first ≤ n && n ≤ last

end Scorecard.Text
