import Scorecard.Text.Name
import Scorecard.Text.Quoted
import Scorecard.Text.Space

/-!
# Tokens of expressions

An expression is written with operators, parentheses, identifiers of ASCII letters, digits and
underscores, and decimal literals. `lex` cuts a text into tokens and notes where each starts; white
space separates tokens and is otherwise ignored. A token is as long as it can be.
-/

namespace Scorecard.Expr

open Scorecard.Text (isNameChar isNameStart isSpace)

/-- The tokens of one character. -/
inductive Symbol where
  /-- The plus sign. -/
  | plus
  /-- The minus sign. -/
  | minus
  /-- The star of a product. -/
  | times
  /-- The slash of a quotient. -/
  | slash
  /-- An opening parenthesis. -/
  | opening
  /-- A closing parenthesis. -/
  | closing
  deriving DecidableEq, Repr

/-- The character of a symbol. -/
def Symbol.char : Symbol → Char
  | plus => '+'
  | minus => '-'
  | times => '*'
  | slash => '/'
  | opening => '('
  | closing => ')'

/-- The symbol of a character. -/
def Symbol.ofChar? (c : Char) : Option Symbol :=
  [plus, minus, times, slash, opening, closing].find? (·.char = c)

/-- A token. -/
inductive Token where
  /-- An operator or a parenthesis. -/
  | symbol (s : Symbol)
  /-- An identifier. -/
  | ident (name : String)
  /-- A decimal literal. -/
  | number (literal : String)
  deriving DecidableEq, Repr

/-- A token as it is written. -/
def Token.text : Token → String
  | symbol s => String.ofList [s.char]
  | ident name => name
  | number literal => literal

/-- A token and the position of its first character. -/
structure Lexeme where
  /-- The token. -/
  token : Token
  /-- The number of characters before it. -/
  position : Nat
  deriving DecidableEq, Repr

/-- Why a text is no expression. -/
inductive SyntaxError where
  /-- A literal with two points, or a point alone. -/
  | malformedNumber (position : Nat)
  /-- A character that starts no token. -/
  | unexpectedCharacter (c : Char) (position : Nat)
  /-- There are no tokens. -/
  | empty
  /-- There are more than `tokenLimit` tokens. -/
  | tooLong
  /-- More signs and parentheses around a token than the limit allows. -/
  | tooDeep (limit : Int)
  /-- A parenthesis is not closed where its expression ends. -/
  | unclosed
  /-- The tokens end where an operand is due. -/
  | unexpectedEnd
  /-- A token stands where it cannot. -/
  | unexpectedToken (lexeme : Lexeme)
  deriving DecidableEq, Repr

/-- The number of tokens that an expression may have. -/
def tokenLimit : Nat := 512

/-- The wording of a syntax error. -/
def SyntaxError.message : SyntaxError → String
  | malformedNumber position => "Malformed number at position " ++ position.repr
  | unexpectedCharacter c position =>
    "Unexpected character " ++ Text.quoted (String.ofList [c]) ++ " at position " ++ position.repr
  | empty => "Empty expression"
  | tooLong => "Expression longer than " ++ tokenLimit.repr ++ " tokens"
  | tooDeep limit => "Expression nested deeper than " ++ limit.repr
  | unclosed => "Expected ')' to close expression"
  | unexpectedEnd => "Unexpected end of expression"
  | unexpectedToken lexeme =>
    "Unexpected " ++ Text.quoted lexeme.token.text ++ " at position " ++ lexeme.position.repr

/-- The characters of a literal: ASCII digits and the point. -/
def isLiteralChar (c : Char) : Bool :=
  c.isDigit || c = '.'

/-- A literal has one point at most and a digit at least. -/
def isLiteral (cs : List Char) : Bool :=
  cs.count '.' ≤ 1 && cs.any Char.isDigit

/-- The tokens of the characters `cs`, the first of which is at `position`. -/
def lexFrom (position : Nat) (cs : List Char) : Except SyntaxError (List Lexeme) :=
  match cs with
  | [] => .ok []
  | c :: rest =>
    if isSpace c then lexFrom (position + 1) rest
    else
      match Symbol.ofChar? c with
      | some s => (lexFrom (position + 1) rest).map (⟨.symbol s, position⟩ :: ·)
      | none =>
        if isNameStart c then
          let name := c :: rest.takeWhile isNameChar
          (lexFrom (position + name.length) (rest.dropWhile isNameChar)).map
            (⟨.ident (String.ofList name), position⟩ :: ·)
        else if isLiteralChar c then
          let literal := c :: rest.takeWhile isLiteralChar
          if isLiteral literal then
            (lexFrom (position + literal.length) (rest.dropWhile isLiteralChar)).map
              (⟨.number (String.ofList literal), position⟩ :: ·)
          else .error (.malformedNumber position)
        else .error (.unexpectedCharacter c position)
termination_by cs.length
decreasing_by
  all_goals simp only [List.length_cons]
  · omega
  · omega
  · exact Nat.lt_succ_of_le (List.dropWhile_suffix _).length_le
  · exact Nat.lt_succ_of_le (List.dropWhile_suffix _).length_le

/-- The tokens of a text. -/
def lex (s : String) : Except SyntaxError (List Lexeme) :=
  lexFrom 0 s.toList

end Scorecard.Expr
