import Scorecard.Expr.Basic

/-!
# Parsing expressions

The grammar, with one token of lookahead:

    expr    := term (("+" | "-") term)*
    term    := unary (("*" | "/") unary)*
    unary   := ("+" | "-") unary | primary
    primary := NUMBER | IDENT | "(" expr ")"

Operations of one rank group to the left. The number of signs and parentheses around a token is
limited; `room` is how many more of them may be entered, and every recursive call of `unary` has
less of it. Runs of operations are loops over the tokens.

The limit is any integer, and the parser reaches as deep as it allows. Two bounds of the machine
that runs it are set aside: how many calls may be open at once, which at some hundred nested
parentheses stops a run whose limit is larger still, and how many digits a number has that a
message can quote, which only a limit too long for the settings exceeds.
-/

namespace Scorecard.Expr

/-- An expression read from the front of the tokens, and the tokens after it. -/
abbrev Parsed := Except SyntaxError (Expr × List Lexeme)

/-- The operations of the lower rank. -/
def additive? : Token → Option Operation
  | .symbol .plus => some .add
  | .symbol .minus => some .sub
  | _ => none

/-- The operations of the higher rank. -/
def multiplicative? : Token → Option Operation
  | .symbol .times => some .mul
  | .symbol .slash => some .div
  | _ => none

/-- Extends `left` by the operations and operands that follow it, `fuel` of them at most. -/
def extend (op? : Token → Option Operation) (operand : List Lexeme → Parsed) :
    (fuel : Nat) → (left : Expr) → List Lexeme → Parsed
  | 0, left, ts => .ok (left, ts)
  | _, left, [] => .ok (left, [])
  | fuel + 1, left, t :: ts =>
    match op? t.token with
    | none => .ok (left, t :: ts)
    | some op => do
      let (right, rest) ← operand ts
      extend op? operand fuel (.binary op left right) rest

/-- Operands joined by operations of one rank. Every operation takes a token, so there are no more
of them than tokens. -/
def chain (op? : Token → Option Operation) (operand : List Lexeme → Parsed) (ts : List Lexeme) :
    Parsed := do
  let (left, rest) ← operand ts
  extend op? operand rest.length left rest

/-- A sum of products of operands. -/
def sum (operand : List Lexeme → Parsed) : List Lexeme → Parsed :=
  chain additive? (chain multiplicative? operand)

/-- The closing parenthesis after an expression. -/
def close (e : Expr) : List Lexeme → Parsed
  | ⟨.symbol .closing, _⟩ :: ts => .ok (e, ts)
  | _ => .error .unclosed

/-- An operand with its signs, when `room` more signs and parentheses may be entered. -/
def unary (limit : Int) : (room : Nat) → List Lexeme → Parsed
  | _, [] => .error .unexpectedEnd
  | _, ⟨.number literal, _⟩ :: ts => .ok (.number (literalValue literal), ts)
  | _, ⟨.ident name, _⟩ :: ts => .ok (.kpi name, ts)
  | 0, ⟨.symbol .plus, _⟩ :: _ => .error (.tooDeep limit)
  | 0, ⟨.symbol .minus, _⟩ :: _ => .error (.tooDeep limit)
  | 0, ⟨.symbol .opening, _⟩ :: _ => .error (.tooDeep limit)
  | room + 1, ⟨.symbol .plus, _⟩ :: ts => do
    let (e, rest) ← unary limit room ts
    .ok (.signed .plus e, rest)
  | room + 1, ⟨.symbol .minus, _⟩ :: ts => do
    let (e, rest) ← unary limit room ts
    .ok (.signed .minus e, rest)
  | room + 1, ⟨.symbol .opening, _⟩ :: ts => do
    let (e, rest) ← sum (unary limit room) ts
    close e rest
  | _, t :: _ => .error (.unexpectedToken t)

/-- The expression that a list of tokens spells. -/
def ofLexemes (limit : Int) (ts : List Lexeme) : Except SyntaxError Expr :=
  if ts.isEmpty then .error .empty
  else if tokenLimit < ts.length then .error .tooLong
  else do
    let (e, rest) ← sum (unary limit limit.toNat) ts
    match rest with
    | [] => .ok e
    | t :: _ => .error (.unexpectedToken t)

/-- The expression that a text spells, with at most `limit` signs and parentheses around a token. -/
def parse (s : String) (limit : Int) : Except SyntaxError Expr := do
  ofLexemes limit (← lex s)

/-- The nesting that is allowed where nothing else is said. -/
def defaultDepth : Int := 32

/-- Whether a text, white space around it apart, spells an expression. -/
def isValid (s : String) (limit : Int) : Bool :=
  match parse (Text.trim s) limit with
  | .ok _ => true
  | .error _ => false

/-- The value of the expression that a text spells; nothing if it spells none. -/
def evaluate? (s : String) (limit : Int) (lookup : String → Option Float) : Option Float :=
  match parse (Text.trim s) limit with
  | .ok e => e.value? lookup
  | .error _ => none

end Scorecard.Expr
