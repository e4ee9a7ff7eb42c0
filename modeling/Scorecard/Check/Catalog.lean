import Scorecard.Check.Registry
import Scorecard.Json.Printer

/-!
# The catalogue of checks

What the checks of a registry are called, what they take and what they do, for those who write
formulas. The catalogue is sorted by name, and written in JSON or YAML with the fields of an entry
in alphabetical order.
-/

namespace Scorecard

/-- The entry of a check. -/
structure CatalogEntry where
  /-- The name that formulas start with. -/
  name : String
  /-- Further names. -/
  aliases : List String
  /-- What the arguments are called. -/
  arguments : List String
  /-- What the arguments have to be. -/
  argumentKinds : List String
  /-- What the check does. -/
  description : String
  /-- The module that integrations know the check by. -/
  moduleName : String
  /-- The class that integrations know the check by. -/
  className : String
  deriving DecidableEq, Repr

namespace Check

/-- The module, without what all modules have in common, and the class of a standard check. -/
def homes : List (String × String × String) :=
  [("GREATER", "comparison", "GreaterCheck"), ("GTE", "comparison", "GreaterOrEqualCheck"),
    ("EQUALS", "equals", "EqualsCheck"), ("RANGE", "range_check", "RangeCheck"),
    ("RATIO_MIN", "ratio", "RatioMinCheck"), ("RATIO_MAX", "ratio", "RatioMaxCheck"),
    ("RECONCILE", "reconcile", "ReconcileCheck"), ("REQUIRES", "requires", "RequiresCheck")]

/-- The entry of a check. -/
def entry (c : Check) : CatalogEntry :=
  let (moduleName, className) := (homes.lookup c.name).getD ("", "")
  { name := c.name
    aliases := c.aliases
    arguments := c.argumentNames
    argumentKinds := c.argumentKinds.map ArgumentKind.name
    description := c.description
    moduleName := "common.diagnostic_engine.checks." ++ moduleName
    className }

end Check

/-- The entries of all checks, sorted by name. -/
def Registry.catalog (r : Registry) : List CatalogEntry :=
  (r.primary.map fun (_, check) => check.entry).mergeSort fun a b => decide (a.name ≤ b.name)

namespace CatalogEntry

/-- How a formula is written: the name and the arguments, between colons. -/
def pattern (e : CatalogEntry) : String :=
  ":".intercalate (e.name :: e.arguments.map fun argument => "<" ++ argument ++ ">")

/-- What a field holds. -/
inductive Content where
  /-- One text. -/
  | text (s : String)
  /-- A list of texts. -/
  | texts (items : List String)

/-- The fields of an entry by name. -/
def fields (e : CatalogEntry) : List (String × Content) :=
  [("aliases", .texts e.aliases), ("argument_kinds", .texts e.argumentKinds),
    ("arguments", .texts e.arguments), ("class_name", .text e.className),
    ("description", .text e.description), ("module", .text e.moduleName),
    ("prefix", .text e.name), ("syntax", .text e.pattern)]

/-- The datum of a field. -/
def Content.toDatum : Content → Datum
  | text s => .text s
  | texts items => .list (items.map .text)

/-- An entry as a mapping. -/
def toDatum (e : CatalogEntry) : Datum :=
  .record (e.fields.map fun (name, content) => (.text name, content.toDatum))

/-- The column after which a text goes on in the next line. -/
def lineWidth : Nat := 80

/-- Words with what separates them: a blank or, from the first word on that ends after the width of
a line, a line end and four blanks. The first word starts in the given column. -/
def wrapped (column : Nat) : List String → String
  | [] => ""
  | [word] => word
  | word :: words =>
    let reached := column + word.length
    if lineWidth < reached then word ++ "\n    " ++ wrapped 4 words
    else word ++ " " ++ wrapped (reached + 1) words

/-- The YAML lines of a field, which are two blanks deep in an entry. -/
def Content.lines (name : String) : Content → List String
  | text s => [wrapped 2 ((name ++ ":") :: Text.split ' ' s)]
  | texts [] => [name ++ ": []"]
  | texts items => (name ++ ":") :: items.map ("- " ++ ·)

/-- The YAML lines of an entry, the first of which has its dash. -/
def lines (e : CatalogEntry) : List String :=
  match e.fields.flatMap fun (name, content) => content.lines name with
  | [] => []
  | first :: rest => ("- " ++ first) :: rest.map ("  " ++ ·)

end CatalogEntry

/-- The JSON text of a catalogue. -/
def catalogJson (entries : List CatalogEntry) : String :=
  Json.write (.list (entries.map CatalogEntry.toDatum))

/-- The YAML text of a catalogue. -/
def catalogYaml (entries : List CatalogEntry) : String :=
  String.join ((entries.flatMap CatalogEntry.lines).map (· ++ "\n"))

end Scorecard
