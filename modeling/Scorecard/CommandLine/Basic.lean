import Scorecard.Text.Digit
import Scorecard.Text.Split

/-!
# Command lines

A command line gives settings, each by a name that starts with two dashes and a value. The value is
the next word, or follows the name after an equals sign. A name may be cut short as long as only
one setting has such a name. A word that starts with a dash is a value if it is a number, or has a
blank in it, or is the dash alone.
-/

namespace Scorecard.CommandLine

/-- Why a command line is not carried out. -/
inductive Refusal where
  /-- It asks how it should be. -/
  | help
  /-- It is not as it should be. -/
  | misuse
  deriving DecidableEq, Repr

/-- A setting that may be given. -/
structure Setting where
  /-- The name, with its dashes. -/
  name : String
  /-- The values that it takes; any, if there are none. -/
  choices : List String := []
  deriving DecidableEq, Repr

/-- Whether a setting takes a value. -/
def Setting.takes (s : Setting) (value : String) : Bool :=
  s.choices.isEmpty || s.choices.contains value

/-- What a word is. -/
inductive Word where
  /-- The name of a setting, perhaps with its value. -/
  | setting (s : Setting) (value : Option String)
  /-- The wish to know more. -/
  | help
  /-- A value. -/
  | value (text : String)
  /-- The name of nothing. -/
  | stray
  deriving DecidableEq, Repr

/-- Whether a word is a negative number: a dash, digits, and perhaps a point with digits after it;
the digits before a point may be missing. -/
def isNegativeNumber : List Char → Bool
  | '-' :: cs =>
    match Text.cut '.' cs with
    | some (whole, fraction) => all whole && !fraction.isEmpty && all fraction
    | none => !cs.isEmpty && all cs
  | _ => false
where
  /-- Whether there are only digits. -/
  all (cs : List Char) : Bool := cs.all fun c => (Text.decimalValue? c).isSome

/-- The name that asks for help. -/
def helpName : String := "--help"

/-- The word of a full name with the value that came with it. -/
def wordOf (settings : List Setting) (name : String) (value : Option String) : Word :=
  match settings.find? (·.name = name), value with
  | some s, _ => .setting s value
  | none, none => .help
  | none, some _ => .stray

/-- The full names that a word's name may stand for: itself, or every one that it starts. -/
def fullNames (settings : List Setting) (name : List Char) : List String :=
  let names := helpName :: settings.map (·.name)
  if names.contains (String.ofList name) then [String.ofList name]
  else if ['-', '-'].isPrefixOf name then names.filter fun full => name.isPrefixOf full.toList
  else []

/-- What a word is that is not the dash alone. -/
def Word.ofText (settings : List Setting) (text : String) : Except Refusal Word :=
  let cs := text.toList
  if cs.length < 2 || cs.head? ≠ some '-' then .ok (.value text)
  else if text = "-h" then .ok .help
  else
    let (name, given) := match Text.cut '=' cs with
      | some (name, given) => (name, some (String.ofList given))
      | none => (cs, none)
    match fullNames settings name with
    | [full] => .ok (wordOf settings full given)
    | _ :: _ => .error .misuse
    | [] => .ok (if isNegativeNumber cs || cs.contains ' ' then .value text else .stray)

/-- What the words of a command line are. After two dashes alone there is nothing to name. -/
def words (settings : List Setting) : List String → Except Refusal (List Word)
  | [] => .ok []
  | "--" :: _ => .ok [.stray]
  | text :: rest => do return (← Word.ofText settings text) :: (← words settings rest)

/-- A setting and its value, before others. -/
def give (s : Setting) (value : String) (rest : Except Refusal (List (String × String))) :
    Except Refusal (List (String × String)) :=
  if s.takes value then rest.map ((s.name, value) :: ·) else .error .misuse

/-- The settings that words give, from the first one on. -/
def given : List Word → Except Refusal (List (String × String))
  | [] => .ok []
  | .help :: _ => .error .help
  | .setting s (some value) :: rest => give s value (given rest)
  | .setting s none :: .value value :: rest => give s value (given rest)
  | .setting _ none :: _ => .error .misuse
  | .value _ :: rest | .stray :: rest =>
    match given rest with
    | .error e => .error e
    | .ok _ => .error .misuse

/-- The settings of a command line with their values. -/
def read (settings : List Setting) (arguments : List String) :
    Except Refusal (List (String × String)) := do
  given (← words settings arguments)

/-- The values that were given to a setting. -/
def valuesOf (name : String) (given : List (String × String)) : List String :=
  (given.filter (·.1 = name)).map (·.2)

end Scorecard.CommandLine
