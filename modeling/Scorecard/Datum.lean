import Scorecard.Assoc
import Scorecard.Decimal.Numeral
import Scorecard.Decimal.Shortest
import Scorecard.Fault
import Scorecard.Text.Digit

/-!
# Data of configuration files

Cells of sheets and the contents of configuration files are data of a few kinds. Two views of a
datum matter: its text, as it is read by an adapter or shown in a report, and its number, which is
a finite double or absent. A datum with too long a whole number in it has no text.
-/

namespace Scorecard

/-- A piece of data as configuration files hold it. -/
inductive Datum where
  /-- No value. -/
  | null
  /-- A truth value. -/
  | bool (value : Bool)
  /-- A whole number of any size. -/
  | int (value : Int)
  /-- A double. -/
  | float (value : Float)
  /-- A text. -/
  | text (value : String)
  /-- A sequence. -/
  | list (items : List Datum)
  /-- A mapping in order of first insertion. -/
  | record (fields : List (Datum × Datum))
  deriving Inhabited, Repr

namespace Datum

mutual

/-- Whether two data are of one kind and equal; doubles are compared as numbers. -/
def same : Datum → Datum → Bool
  | null, null => true
  | bool a, bool b => a == b
  | int m, int n => m == n
  | float x, float y => x == y
  | text s, text t => s == t
  | list items, list others => sameItems items others
  | record fields, record others => sameFields fields others
  | _, _ => false

/-- Whether two sequences have equal items. -/
def sameItems : List Datum → List Datum → Bool
  | [], [] => true
  | item :: items, other :: others => item.same other && sameItems items others
  | _, _ => false

/-- Whether two mappings have equal entries in one order. -/
def sameFields : List (Datum × Datum) → List (Datum × Datum) → Bool
  | [], [] => true
  | (key, value) :: fields, (key', value') :: others =>
    key.same key' && value.same value' && sameFields fields others
  | _, _ => false

end

instance : BEq Datum := ⟨same⟩

mutual

/-- The text of a datum inside a sequence or mapping, where texts are quoted. -/
def inner : Datum → String
  | null => "None"
  | bool true => "True"
  | bool false => "False"
  | int n => n.repr
  | float x => Decimal.shortestText x
  | text s => Text.quoted s
  | list items => "[" ++ ", ".intercalate (innerItems items) ++ "]"
  | record fields => "\x7b" ++ ", ".intercalate (innerFields fields) ++ "\x7d"

/-- The texts of the items of a sequence. -/
def innerItems : List Datum → List String
  | [] => []
  | item :: items => item.inner :: innerItems items

/-- The texts of the entries of a mapping. -/
def innerFields : List (Datum × Datum) → List String
  | [] => []
  | (key, value) :: fields => (key.inner ++ ": " ++ value.inner) :: innerFields fields

end

mutual

/-- Whether a datum has a text: no whole number in it has too many digits. -/
def hasText : Datum → Bool
  | int n => n.natAbs < Text.numberLimit
  | list items => itemsHaveText items
  | record fields => fieldsHaveText fields
  | null | bool _ | float _ | text _ => true

/-- Whether all items of a sequence have a text. -/
def itemsHaveText : List Datum → Bool
  | [] => true
  | item :: items => item.hasText && itemsHaveText items

/-- Whether all entries of a mapping have a text. -/
def fieldsHaveText : List (Datum × Datum) → Bool
  | [] => true
  | (key, value) :: fields => key.hasText && value.hasText && fieldsHaveText fields

end

/-- The text of a datum that has one. -/
def toText : Datum → String
  | text s => s
  | d => d.inner

/-- The text of a datum, as an operation asks for it. -/
def written (d : Datum) : Except Fault String :=
  if d.hasText then .ok d.toText else .error .numberTooLong

/-- The text of a datum that is there; nothing for no value and for blanks, and no white space
around it. -/
def cell? (d : Datum) : Except Fault (Option String) :=
  match d with
  | null => .ok none
  | d => d.written.map fun s => if Text.isBlank s then none else some (Text.trim s)

end Datum

/-- A double that is neither infinite nor not-a-number. -/
def finite? (x : Float) : Option Float :=
  if x.isFinite then some x else none

/-- The finite number that a text denotes: white space around it and commas in it do not count. -/
def textNumber? (s : String) : Option Float := do
  finite? (← Decimal.double? ((Text.trimmed s.toList).filter (· != ',')))

/-- The finite number that a datum denotes. Texts are read, truth values are no numbers, and a whole
number has to be in the range of doubles. The text of a collection is no number either, but it is
asked for. -/
def Datum.number? : Datum → Except Fault (Option Float)
  | .int n =>
    let x := Float.ofInt n
    if x.isFinite then .ok (some x) else .error .integerTooLarge
  | .float x => .ok (finite? x)
  | .text s => .ok (textNumber? s)
  | .null | .bool _ => .ok none
  | .list items => (Datum.list items).written.map fun _ => none
  | .record fields => (Datum.record fields).written.map fun _ => none

end Scorecard
