import Scorecard.Datum

/-!
# Schemas

The fields of the settings and of a client are read from data by kind: texts, names from a fixed
list, whole numbers, doubles, and mappings. Numbers are also read from texts. Every fault of a
mapping is reported, not only the first, each with the path to where it was found.
-/

namespace Scorecard

/-- What is wrong with a field. -/
inductive SchemaFault where
  /-- A mapping of fields is wanted. -/
  | modelType
  /-- A text is wanted. -/
  | stringType
  /-- A name from a list is wanted. -/
  | enum
  /-- A whole number is wanted. -/
  | intType
  /-- The text is no whole number. -/
  | intParsing
  /-- The text has too many characters for a whole number. -/
  | intParsingSize
  /-- The double is not whole. -/
  | intFromFloat
  /-- The double is no finite number. -/
  | finiteNumber
  /-- A double is wanted. -/
  | floatType
  /-- The text is no double. -/
  | floatParsing
  /-- A mapping is wanted. -/
  | dictType
  deriving DecidableEq, Repr

/-- The name of a fault. -/
def SchemaFault.name : SchemaFault → String
  | modelType => "model_type"
  | stringType => "string_type"
  | enum => "enum"
  | intType => "int_type"
  | intParsing => "int_parsing"
  | intParsingSize => "int_parsing_size"
  | intFromFloat => "int_from_float"
  | finiteNumber => "finite_number"
  | floatType => "float_type"
  | floatParsing => "float_parsing"
  | dictType => "dict_type"

/-- A fault and the path to where it was found. -/
structure SchemaError where
  /-- The names on the way. -/
  path : List String
  /-- The fault. -/
  fault : SchemaFault
  deriving DecidableEq, Repr

/-- The path as a text. -/
def SchemaError.location (e : SchemaError) : String :=
  ".".intercalate e.path

namespace Schema

/-- A value, or everything that is wrong with it. -/
abbrev Checked (α : Type) := Except (List SchemaError) α

/-- Two values, or everything that is wrong with either. -/
def both {α β : Type} (a : Checked α) (b : Checked β) : Checked (α × β) :=
  match a, b with
  | .ok a, .ok b => .ok (a, b)
  | .ok _, .error e => .error e
  | .error e, .ok _ => .error e
  | .error e, .error e' => .error (e ++ e')

/-- Several values, or everything that is wrong with any of them. -/
def each {α : Type} : List (Checked α) → Checked (List α)
  | [] => .ok []
  | a :: rest => (both a (each rest)).map fun (a, rest) => a :: rest

/-- A way to read a datum. -/
abbrev Reader (α : Type) := Datum → Checked α

/-- A single fault, at the place of the datum itself. -/
def fault {α : Type} (f : SchemaFault) : Checked α :=
  .error [⟨[], f⟩]

/-- What is wrong with a part is wrong at the part's place. -/
def inside {α : Type} (name : String) (c : Checked α) : Checked α :=
  c.mapError fun errors => errors.map fun e => { e with path := name :: e.path }

/-- A text. -/
def text : Reader String
  | .text s => .ok s
  | _ => fault .stringType

/-- A name from a list. -/
def oneOf {α : Type} (ofName? : String → Option α) : Reader α
  | .text s =>
    match ofName? s with
    | some a => .ok a
    | none => fault .enum
  | _ => fault .enum

/-- The text without its underscores; nothing if there are none, or if one is at an end or two are
together. -/
def dropUnderscores? (cs : List Char) : Option (List Char) :=
  let rec doubled : List Char → Bool
    | '_' :: '_' :: _ => true
    | _ :: cs => doubled cs
    | [] => false
  if !cs.contains '_' || cs.head? = some '_' || cs.getLast? = some '_' || doubled cs then none
  else some (cs.filter (· != '_'))

/-- A double from its text. -/
def double? (s : String) : Option Float :=
  Decimal.plainDouble? (Text.trimWhile Decimal.isNumberBlank s.toList) <|>
    (dropUnderscores? s.toList).bind Decimal.plainDouble?

/-- A double. -/
def float : Reader Float
  | .float x => .ok x
  | .bool b => .ok (if b then 1.0 else 0.0)
  | .int n =>
    match (Datum.int n).number? with
    | .ok (some x) => .ok x
    | _ => fault .floatType
  | .text s =>
    match double? s with
    | some x => .ok x
    | none => fault .floatParsing
  | _ => fault .floatType

/-- A whole number from its digits, without zeros in front. -/
def wholeDigits? : List Char → Option Nat
  | [] => none
  | ['0'] => some 0
  | '0' :: _ => none
  | cs => if cs.all Char.isDigit then some (Decimal.natOfDigits cs) else none

/-- The text without the zeros and underscores in front of its first other digit; the last of them
stays before a point and at the end. Nothing if the text starts with something else than a digit or
a minus sign. -/
def dropLeadingZeros? : List Char → Option (List Char)
  | [] => none
  | '0' :: cs =>
    let isFiller := fun c : Char => c = '0' || c = '_'
    let last := (cs.takeWhile isFiller).getLast?.getD '0'
    match cs.dropWhile isFiller with
    | [] => some [last]
    | '.' :: rest => some (last :: '.' :: rest)
    | c :: rest => if c.isDigit then some (c :: rest) else none
  | c :: cs => if c.isDigit || c = '-' then some (c :: cs) else none

/-- The text without a point that nothing but zeros follow. -/
def dropZeroFraction (cs : List Char) : List Char :=
  match cs.dropWhile (· != '.') with
  | '.' :: rest => if rest.all (· = '0') then cs.takeWhile (· != '.') else cs
  | _ => cs

/-- A whole number from its text: with white space around it, a sign, zeros in front and after the
point, and single underscores. -/
def int? (s : String) : Option Int := do
  let cs := Text.trimWhile Decimal.isNumberBlank s.toList
  let cs ←
    match cs with
    | '+' :: '-' :: _ => none
    | '+' :: rest => some rest
    | cs => some cs
  let cs := dropZeroFraction (← dropLeadingZeros? cs)
  match (dropUnderscores? cs).getD cs with
  | '-' :: digits => (wholeDigits? digits).map fun n => -(n : Int)
  | digits => (wholeDigits? digits).map Int.ofNat

/-- The number of characters that a whole number may have as a text. -/
def longestInt : Nat := 4300

/-- A whole number. -/
def int : Reader Int
  | .int n => .ok n
  | .bool b => .ok (if b then 1 else 0)
  | .float x =>
    match Decimal.view x with
    | .finite b => if b.isWhole then .ok b.truncate else fault .intFromFloat
    | _ => fault .finiteNumber
  | .text s =>
    if longestInt < s.utf8ByteSize then fault .intParsingSize
    else
      match int? s with
      | some n => .ok n
      | none => fault .intParsing
  | _ => fault .intType

/-- The name of a key on a path. -/
def keyName : Datum → String
  | .text s => s
  | .bool b => if b then "1" else "0"
  | d => d.toText

/-- A mapping whose keys are names from a list. -/
def mapping {κ α : Type} (ofName? : String → Option κ) (value : Reader α) : Reader (List (κ × α))
  | .record fields =>
    each <| fields.map fun (key, d) =>
      inside (keyName key) (both (inside "[key]" (oneOf ofName? key)) (value d))
  | _ => fault .dictType

/-- A field of a mapping, or its default if there is no such field. -/
def field {α : Type} (fields : List (Datum × Datum)) (name : String) (reader : Reader α)
    (default : α) : Checked α :=
  match fields.lookup (.text name) with
  | none => .ok default
  | some d => inside name (reader d)

end Schema

end Scorecard
