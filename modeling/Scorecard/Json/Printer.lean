import Scorecard.Datum

/-!
# Writing JSON

Data is written over several lines, two blanks deeper for each level, in ASCII alone: other
characters are escaped by their UTF-16 units. Doubles have their shortest text; the three that are
no numbers have words of their own.
-/

namespace Scorecard.Json

/-- An escape by a code unit. -/
def unitEscape (unit : Nat) : List Char :=
  '\\' :: 'u' :: Text.hex 4 unit

/-- A character of a string. -/
def escaped (c : Char) : List Char :=
  let n := c.toNat
  if c = '"' || c = '\\' then ['\\', c]
  else if c = '\n' then ['\\', 'n']
  else if c = '\r' then ['\\', 'r']
  else if c = '\t' then ['\\', 't']
  else if n = 8 then ['\\', 'b']
  else if n = 12 then ['\\', 'f']
  else if 32 ≤ n && n < 127 then [c]
  else if n < 0x10000 then unitEscape n
  else
    unitEscape (0xD800 + (n - 0x10000) / 0x400) ++ unitEscape (0xDC00 + (n - 0x10000) % 0x400)

/-- A string between quotes. -/
def string (s : String) : String :=
  String.ofList ('"' :: s.toList.flatMap escaped ++ ['"'])

/-- A double. -/
def double (x : Float) : String :=
  if x.isNaN then "NaN"
  else if x.isInf then (if x < 0.0 then "-Infinity" else "Infinity")
  else Decimal.shortestText x

/-- The end of a line and the blanks of the next one. -/
def newline (depth : Nat) : String :=
  String.ofList ('\n' :: List.replicate (2 * depth) ' ')

/-- Parts between brackets, each on a line of its own; `depth` is that of the brackets. -/
def block (opening closing : String) (depth : Nat) (parts : List String) : String :=
  if parts.isEmpty then opening ++ closing
  else
    opening ++ newline (depth + 1) ++ (("," ++ newline (depth + 1)).intercalate parts) ++
      newline depth ++ closing

/-- The name of an entry. -/
def name : Datum → String
  | .text s => string s
  | d => string d.toText

mutual

/-- A datum at a depth of nesting. -/
def print (depth : Nat) : Datum → String
  | .null => "null"
  | .bool b => if b then "true" else "false"
  | .int n => n.repr
  | .float x => double x
  | .text s => string s
  | .list items => block "[" "]" depth (printItems (depth + 1) items)
  | .record fields => block "\x7b" "\x7d" depth (printFields (depth + 1) fields)

/-- The items of a sequence. -/
def printItems (depth : Nat) : List Datum → List String
  | [] => []
  | d :: ds => print depth d :: printItems depth ds

/-- The entries of a mapping. -/
def printFields (depth : Nat) : List (Datum × Datum) → List String
  | [] => []
  | (key, d) :: fields => (name key ++ ": " ++ print depth d) :: printFields depth fields

end

/-- The JSON text of a datum. -/
def write (d : Datum) : String :=
  print 0 d

end Scorecard.Json
