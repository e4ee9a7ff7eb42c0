import Scorecard.Expr.Parser

/-!
# The grammar of expressions

The grammar of expressions as a relation between lists of tokens and trees:

    expr    := term (("+" | "-") term)*
    term    := unary (("*" | "/") unary)*
    unary   := ("+" | "-") unary | primary
    primary := NUMBER | IDENT | "(" expr ")"

Every token of a derivation is *placed*: it carries the number of signs and parentheses that it
stands inside. A repetition is read from the left, which makes the operations of one rank group to
the left.
-/

namespace Scorecard.Expr

/-- Whether an operation is of the lower rank. -/
def Operation.isAdditive : Operation → Bool
  | add | sub => true
  | mul | div => false

/-- The phrases of the grammar. -/
inductive Phrase where
  /-- A sum of terms. -/
  | expr
  /-- A product of operands. -/
  | term
  /-- An operand with its signs. -/
  | unary
  /-- An operand without a sign. -/
  | primary
  deriving DecidableEq, Repr

/-- A token and the number of signs and parentheses that it stands inside. -/
structure Placed where
  /-- The token. -/
  token : Token
  /-- How many signs and parentheses are around it. -/
  depth : Nat
  deriving DecidableEq, Repr

/-- `Spells p d ts e`: the tokens `ts` are derivable from the phrase `p`, the phrase stands inside
`d` signs and parentheses, and the tree of the derivation is `e`. -/
inductive Spells : Phrase → Nat → List Placed → Expr → Prop where
  /-- A sum may be one term. -/
  | oneTerm {d ts e} (h : Spells .term d ts e) : Spells .expr d ts e
  /-- A sum may go on with one more term. -/
  | moreTerms {d ts us l r} (op : Operation) (hop : op.isAdditive = true)
      (hl : Spells .expr d ts l) (hr : Spells .term d us r) :
      Spells .expr d (ts ++ ⟨.symbol op.symbol, d⟩ :: us) (.binary op l r)
  /-- A product may be one operand. -/
  | oneUnary {d ts e} (h : Spells .unary d ts e) : Spells .term d ts e
  /-- A product may go on with one more operand. -/
  | moreUnaries {d ts us l r} (op : Operation) (hop : op.isAdditive = false)
      (hl : Spells .term d ts l) (hr : Spells .unary d us r) :
      Spells .term d (ts ++ ⟨.symbol op.symbol, d⟩ :: us) (.binary op l r)
  /-- A sign stands before what it is the sign of, and that is inside it. -/
  | sign {d ts e} (s : Sign) (h : Spells .unary (d + 1) ts e) :
      Spells .unary d (⟨.symbol s.symbol, d⟩ :: ts) (.signed s e)
  /-- An operand need not have a sign. -/
  | unsigned {d ts e} (h : Spells .primary d ts e) : Spells .unary d ts e
  /-- A decimal literal. -/
  | literal {d} (text : String) :
      Spells .primary d [⟨.number text, d⟩] (.number (literalValue text))
  /-- An identifier. -/
  | ident {d} (name : String) : Spells .primary d [⟨.ident name, d⟩] (.kpi name)
  /-- An expression in parentheses is inside them. -/
  | parens {d ts e} (h : Spells .expr (d + 1) ts e) :
      Spells .primary d (⟨.symbol .opening, d⟩ :: (ts ++ [⟨.symbol .closing, d⟩])) e

/-- No token stands inside more than `bound` signs and parentheses. -/
def Fits (bound : Nat) (ts : List Placed) : Prop :=
  ∀ t ∈ ts, t.depth ≤ bound

@[simp]
theorem fits_nil (bound : Nat) : Fits bound [] := by
  simp [Fits]

@[simp]
theorem fits_cons {bound : Nat} {t : Placed} {ts : List Placed} :
    Fits bound (t :: ts) ↔ t.depth ≤ bound ∧ Fits bound ts := by
  simp [Fits]

@[simp]
theorem fits_append {bound : Nat} {ts us : List Placed} :
    Fits bound (ts ++ us) ↔ Fits bound ts ∧ Fits bound us := by
  simp [Fits, or_imp, forall_and]

/-- The tokens of lexemes, without their positions. -/
def tokensOf (ls : List Lexeme) : List Token :=
  ls.map (·.token)

/-- The tokens of placed tokens, without their depths. -/
def Placed.tokens (ts : List Placed) : List Token :=
  ts.map (·.token)

@[simp]
theorem tokensOf_cons (l : Lexeme) (ls : List Lexeme) :
    tokensOf (l :: ls) = l.token :: tokensOf ls :=
  List.map_cons

@[simp]
theorem tokensOf_append (ls ls' : List Lexeme) :
    tokensOf (ls ++ ls') = tokensOf ls ++ tokensOf ls' :=
  List.map_append

@[simp]
theorem Placed.tokens_cons (t : Placed) (ts : List Placed) :
    tokens (t :: ts) = t.token :: tokens ts :=
  List.map_cons

@[simp]
theorem Placed.tokens_append (ts us : List Placed) :
    tokens (ts ++ us) = tokens ts ++ tokens us :=
  List.map_append

/-- A derivation has a token. -/
theorem Spells.ne_nil {p : Phrase} {d : Nat} {ts : List Placed} {e : Expr}
    (h : Spells p d ts e) : ts ≠ [] := by
  induction h <;> simp_all

end Scorecard.Expr
