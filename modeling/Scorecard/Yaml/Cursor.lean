/-!
# Places in a YAML document

A `Cursor` is a place in the text with its column, since indentation tells what belongs together.
Between tokens there are blanks, line ends and comments; tabs do not indent or separate.
-/

namespace Scorecard.Yaml

/-- A place in a text. -/
structure Cursor where
  /-- What follows. -/
  rest : List Char
  /-- How many characters of the line are before it. -/
  column : Nat
  /-- Whether a line was ended to get there. -/
  fresh : Bool := false

/-- The place after `n` characters of the line. -/
def Cursor.forward (c : Cursor) (n : Nat) : Cursor :=
  ⟨c.rest.drop n, c.column + n, false⟩

/-- The next token: blanks, line ends and comments are passed over. -/
def tokenFrom (column : Nat) (fresh comment : Bool) : List Char → Cursor
  | [] => ⟨[], column, fresh⟩
  | '\n' :: cs => tokenFrom 0 true false cs
  | c :: cs =>
    if comment then tokenFrom (column + 1) fresh true cs
    else if c = ' ' then tokenFrom (column + 1) fresh false cs
    else if c = '#' then tokenFrom (column + 1) fresh true cs
    else ⟨c :: cs, column, fresh⟩

/-- The place of the next token. -/
def Cursor.token (c : Cursor) : Cursor :=
  tokenFrom c.column false false c.rest

/-- Whether nothing, a blank or a line end is at the front. -/
def atGap : List Char → Bool
  | [] => true
  | c :: _ => c = ' ' || c = '\t' || c = '\n'

/-- Whether three dashes or three points are at the front. -/
def startsMarker : List Char → Bool
  | '-' :: '-' :: '-' :: cs => atGap cs
  | '.' :: '.' :: '.' :: cs => atGap cs
  | _ => false

/-- Whether a line starts or ends a document. -/
def atMarker (c : Cursor) : Bool :=
  c.column = 0 && startsMarker c.rest

/-- Line ends and the blanks that start the next lines: how many, and what follows. -/
def lineEnds : (count column : Nat) → List Char → Nat × Cursor
  | count, column, ' ' :: cs => lineEnds count (column + 1) cs
  | count, _, '\n' :: cs => lineEnds (count + 1) 0 cs
  | count, column, cs => (count, ⟨cs, column, true⟩)

/-- What stands for line ends inside a scalar: a blank for one, and otherwise all but one. -/
def folded (count : Nat) : List Char :=
  if count ≤ 1 then [' '] else List.replicate (count - 1) '\n'

end Scorecard.Yaml
