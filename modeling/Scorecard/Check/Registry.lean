import Scorecard.Check.Standard

/-!
# The registry of checks

Checks are found by their names in any letter case. A check is registered under all of its names
or, if one of them is taken or the check is not sound, under none.
-/

namespace Scorecard

/-- Why a check is not accepted. -/
inductive CheckError where
  /-- It has no name, and so cannot be registered. -/
  | unnamed
  /-- It has no name, and so cannot be used. -/
  | nameless
  /-- One of its names, in upper case, belongs to another check. -/
  | nameTaken (key : String)
  /-- The names of its arguments and their kinds differ in number. -/
  | argumentsDiffer (name : String)
  deriving DecidableEq, Repr

/-- The wording of a check error. -/
def CheckError.message : CheckError → String
  | unnamed => "Check class missing prefix"
  | nameless => "FormulaCheck must define prefix"
  | nameTaken key => "Duplicate formula prefix registered: " ++ key
  | argumentsDiffer name => name ++ ": arg_names and arg_kinds differ in length"

namespace Check

/-- A check that can be used: it has a name, and a kind for each of its arguments. -/
def accept (c : Check) : Except CheckError Check :=
  if c.name.isEmpty then .error .nameless
  else if c.argumentNames.length ≠ c.argumentKinds.length then .error (.argumentsDiffer c.name)
  else .ok c

/-- The keys under which a check is found. -/
def keys (c : Check) : List String :=
  (c.name :: c.aliases).map Text.upper

end Check

/-- The checks that formulas may use. -/
structure Registry where
  /-- The checks under each of their keys. -/
  byKey : List (String × Check) := []
  /-- The checks under the key of their first name, in order of registration. -/
  primary : List (String × Check) := []

namespace Registry

/-- The registry with one more check. -/
def register (r : Registry) (c : Check) : Except CheckError Registry :=
  if c.name.isEmpty then .error .unnamed
  else
    match c.keys.find? fun key => (r.byKey.lookup key).isSome with
    | some key => .error (.nameTaken key)
    | none =>
      c.accept.map fun c =>
        { byKey := c.keys.foldl (fun m key => Assoc.put key c m) r.byKey
          primary := Assoc.put (Text.upper c.name) c r.primary }

/-- The registry after several checks, of which those that are not accepted are left out. -/
def registerAll (r : Registry) (checks : List Check) : Registry :=
  checks.foldl (fun r c => match r.register c with | .ok r => r | .error _ => r) r

/-- The check of a name, with white space around it and in any letter case. -/
def find? (r : Registry) (name : String) : Option Check :=
  r.byKey.lookup (Text.upper (Text.trim name))

/-- The check whose first name it is, in any letter case. -/
def findPrimary? (r : Registry) (name : String) : Option Check :=
  r.primary.lookup (Text.upper name)

/-- The first names of the checks, in upper case and in order of registration. -/
def ids (r : Registry) : List String :=
  r.primary.map (·.1)

/-- The registry of the standard checks. -/
def standard : Registry :=
  ({} : Registry).registerAll Check.standard

end Registry

end Scorecard
