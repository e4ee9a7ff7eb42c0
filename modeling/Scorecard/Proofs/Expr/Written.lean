import Scorecard.Proofs.Expr.Lexer
import Scorecard.Proofs.Expr.Parser

/-!
# Writing expressions

A tree is written with the parentheses that the ranks of its operations and their grouping to the
left require, and no others. Parsing the text gives the tree back, whatever white space is between
the tokens, and no text of the tree has fewer tokens.
-/

namespace Scorecard.Expr

/-- An identifier. -/
structure Name where
  /-- Its characters. -/
  chars : List Char
  /-- They are those of an identifier. -/
  valid : isName chars = true

/-- An unsigned decimal literal. -/
structure Numeral where
  /-- Its characters. -/
  chars : List Char
  /-- They are those of a decimal literal. -/
  valid : isNumeral chars = true

/-- An expression tree whose constants are literals. -/
inductive Tree where
  /-- A decimal literal. -/
  | literal (l : Numeral)
  /-- An identifier. -/
  | name (n : Name)
  /-- A sign and its operand. -/
  | signed (s : Sign) (t : Tree)
  /-- An operation and its operands. -/
  | binary (op : Operation) (l r : Tree)

/-- The tree with the values of its literals. -/
def Tree.toExpr : Tree → Expr
  | literal l => .number (literalValue (String.ofList l.chars))
  | name n => .kpi (String.ofList n.chars)
  | signed s t => .signed s t.toExpr
  | binary op l r => .binary op l.toExpr r.toExpr

/-- How tightly a phrase binds. -/
def Phrase.rank : Phrase → Nat
  | expr => 0
  | term => 1
  | unary => 2
  | primary => 3

/-- The phrase that an operation makes, and that its left operand may be. -/
def Operation.phrase : Operation → Phrase
  | add | sub => .expr
  | mul | div => .term

/-- The phrase that the right operand of an operation may be: it binds more tightly than the
operation, which groups to the left. -/
def Operation.rightPhrase : Operation → Phrase
  | add | sub => .term
  | mul | div => .unary

/-- The tokens `body` of a phrase `q` where a phrase `p` is due, inside `d` signs and parentheses.
Parentheses are put around the phrase if it binds less tightly than the one that is due. -/
def parenthesized (p q : Phrase) (d : Nat) (body : Nat → List Placed) : List Placed :=
  if p.rank ≤ q.rank then body d
  else ⟨.symbol .opening, d⟩ :: (body (d + 1) ++ [⟨.symbol .closing, d⟩])

/-- The tokens of a tree where the phrase `p` is due, inside `d` signs and parentheses. -/
def Tree.placed : Tree → Phrase → Nat → List Placed
  | literal l, _, d => [⟨.number (String.ofList l.chars), d⟩]
  | name n, _, d => [⟨.ident (String.ofList n.chars), d⟩]
  | signed s t, p, d =>
    parenthesized p .unary d fun d => ⟨.symbol s.symbol, d⟩ :: t.placed .unary (d + 1)
  | binary op l r, p, d =>
    parenthesized p op.phrase d fun d =>
      l.placed op.phrase d ++ ⟨.symbol op.symbol, d⟩ :: r.placed op.rightPhrase d

/-- The tokens with which a tree is written. -/
def Tree.tokens (t : Tree) : List Token :=
  Placed.tokens (t.placed .expr 0)

/-- The nesting of a written tree: the most signs and parentheses that a token of it is inside. -/
def Tree.nesting (t : Tree) : Nat :=
  ((t.placed .expr 0).map (·.depth)).foldr max 0

/-! ## A written tree is derivable -/

/-- A phrase that binds more tightly may stand where another one is due. -/
theorem Spells.weaken {p q : Phrase} {d : Nat} {ts : List Placed} {e : Expr} (h : Spells q d ts e)
    (hle : p.rank ≤ q.rank) : Spells p d ts e := by
  cases q <;> cases p <;> simp only [Phrase.rank, Nat.reduceLeDiff] at hle
  case expr.expr => exact h
  case term.expr => exact .oneTerm h
  case term.term => exact h
  case unary.expr => exact .oneTerm (.oneUnary h)
  case unary.term => exact .oneUnary h
  case unary.unary => exact h
  case primary.expr => exact .oneTerm (.oneUnary (.unsigned h))
  case primary.term => exact .oneUnary (.unsigned h)
  case primary.unary => exact .unsigned h
  case primary.primary => exact h

theorem Spells.parenthesized {p q : Phrase} {d : Nat} {body : Nat → List Placed} {e : Expr}
    (h : ∀ d, Spells q d (body d) e) : Spells p d (Expr.parenthesized p q d body) e := by
  unfold Expr.parenthesized
  split
  · exact (h d).weaken ‹_›
  · have hin : Spells .expr (d + 1) (body (d + 1)) e := (h (d + 1)).weaken (Nat.zero_le _)
    refine Spells.weaken (.parens hin) ?_
    cases p <;> decide

theorem Spells.binary {op : Operation} {d : Nat} {ts us : List Placed} {l r : Expr}
    (hl : Spells op.phrase d ts l) (hr : Spells op.rightPhrase d us r) :
    Spells op.phrase d (ts ++ ⟨.symbol op.symbol, d⟩ :: us) (.binary op l r) := by
  cases op with
  | add => exact .moreTerms .add rfl hl hr
  | sub => exact .moreTerms .sub rfl hl hr
  | mul => exact .moreUnaries .mul rfl hl hr
  | div => exact .moreUnaries .div rfl hl hr

theorem Tree.spells (t : Tree) : ∀ (p : Phrase) (d : Nat), Spells p d (t.placed p d) t.toExpr := by
  induction t with
  | literal l =>
    intro p d
    exact Spells.weaken (.literal _) (by cases p <;> decide)
  | name n =>
    intro p d
    exact Spells.weaken (.ident _) (by cases p <;> decide)
  | signed s t ih =>
    intro p d
    exact .parenthesized fun d => .sign s (ih .unary (d + 1))
  | binary op l r ihl ihr =>
    intro p d
    exact .parenthesized fun d => .binary (ihl op.phrase d) (ihr op.rightPhrase d)

/-- In a derivation, one of two neighbours is an operator or a parenthesis. -/
theorem Spells.isChain {p : Phrase} {d : Nat} {ts : List Placed} {e : Expr} (h : Spells p d ts e) :
    (Placed.tokens ts).IsChain Token.Apart := by
  have hjoin : ∀ {ts us : List Placed} {s : Symbol} {d : Nat},
      (Placed.tokens ts).IsChain Token.Apart → (Placed.tokens us).IsChain Token.Apart →
        (Placed.tokens (ts ++ ⟨.symbol s, d⟩ :: us)).IsChain Token.Apart := by
    intro ts us s d hts hus
    rw [Placed.tokens_append, Placed.tokens_cons]
    refine List.isChain_append.2 ⟨hts, ?_, ?_⟩
    · refine List.isChain_cons.2 ⟨fun u _ => .inl rfl, hus⟩
    · rintro t - u hu
      obtain rfl : Token.symbol s = u := by simpa using hu
      exact .inr rfl
  induction h with
  | oneTerm h ih => exact ih
  | moreTerms op hop hl hr ihl ihr => exact hjoin ihl ihr
  | oneUnary h ih => exact ih
  | moreUnaries op hop hl hr ihl ihr => exact hjoin ihl ihr
  | sign s h ih => exact @hjoin [] _ _ _ .nil ih
  | unsigned h ih => exact ih
  | literal text => exact .singleton _
  | ident name => exact .singleton _
  | parens h ih => exact @hjoin [] _ _ _ .nil (hjoin ih .nil)

theorem Tree.wellFormed (t : Tree) :
    ∀ (p : Phrase) (d : Nat), ∀ u ∈ Placed.tokens (t.placed p d), u.WellFormed := by
  have hparens : ∀ {p q : Phrase} {d : Nat} {body : Nat → List Placed},
      (∀ d, ∀ u ∈ Placed.tokens (body d), u.WellFormed) →
        ∀ u ∈ Placed.tokens (parenthesized p q d body), u.WellFormed := by
    intro p q d body hbody u hu
    unfold parenthesized at hu
    split at hu
    · exact hbody d u hu
    · simp only [Placed.tokens, List.map_cons, List.map_append, List.mem_cons, List.mem_append,
        List.map_nil, List.not_mem_nil, or_false] at hu
      rcases hu with rfl | hu | rfl
      · trivial
      · exact hbody (d + 1) u hu
      · trivial
  induction t with
  | literal l =>
    intro p d
    simpa [Tree.placed, Placed.tokens, Token.WellFormed] using l.valid
  | name n =>
    intro p d
    simpa [Tree.placed, Placed.tokens, Token.WellFormed] using n.valid
  | signed s t ih =>
    intro p d
    refine hparens fun d => ?_
    rintro u (_ | ⟨_, hu⟩)
    · trivial
    · exact ih .unary (d + 1) u hu
  | binary op l r ihl ihr =>
    intro p d
    refine hparens fun d u hu => ?_
    rw [Placed.tokens_append, Placed.tokens_cons, List.mem_append, List.mem_cons] at hu
    rcases hu with hu | rfl | hu
    · exact ihl op.phrase d u hu
    · trivial
    · exact ihr op.rightPhrase d u hu

/-! ## A written tree has no token too many -/

theorem length_parenthesized {p q : Phrase} {n : Nat} {body : Nat → List Placed}
    (h : ∀ d, (body d).length = n) (d : Nat) :
    (parenthesized p q d body).length = if p.rank ≤ q.rank then n else n + 2 := by
  unfold parenthesized
  split <;> simp [h]

/-- The number of tokens that a tree is written with in the place of a phrase. -/
def Tree.size (t : Tree) (p : Phrase) : Nat :=
  (t.placed p 0).length

theorem Tree.length_placed (t : Tree) :
    ∀ (p : Phrase) (d : Nat), (t.placed p d).length = t.size p := by
  induction t with
  | literal l => intro p d; rfl
  | name n => intro p d; rfl
  | signed s t ih =>
    intro p d
    have hbody : ∀ d, (⟨.symbol s.symbol, d⟩ :: t.placed .unary (d + 1)).length =
        t.size .unary + 1 := fun d => by simp [ih]
    simp only [Tree.size, Tree.placed]
    rw [length_parenthesized hbody, length_parenthesized hbody]
  | binary op l r ihl ihr =>
    intro p d
    have hbody : ∀ d, (l.placed op.phrase d ++ ⟨.symbol op.symbol, d⟩ ::
        r.placed op.rightPhrase d).length = l.size op.phrase + (r.size op.rightPhrase + 1) :=
      fun d => by simp [ihl, ihr]
    simp only [Tree.size, Tree.placed]
    rw [length_parenthesized hbody, length_parenthesized hbody]

@[simp]
theorem Tree.size_literal (l : Numeral) (p : Phrase) : (literal l).size p = 1 :=
  rfl

@[simp]
theorem Tree.size_name (n : Name) (p : Phrase) : (name n).size p = 1 :=
  rfl

theorem Tree.size_signed (s : Sign) (t : Tree) (p : Phrase) : (signed s t).size p =
    if p.rank ≤ Phrase.unary.rank then t.size .unary + 1 else t.size .unary + 1 + 2 :=
  length_parenthesized (fun d => by simp [t.length_placed]) 0

theorem Tree.size_binary (op : Operation) (l r : Tree) (p : Phrase) : (binary op l r).size p =
    if p.rank ≤ op.phrase.rank then l.size op.phrase + (r.size op.rightPhrase + 1)
    else l.size op.phrase + (r.size op.rightPhrase + 1) + 2 :=
  length_parenthesized (fun d => by simp [l.length_placed, r.length_placed]) 0

theorem Tree.size_le_size (t : Tree) {p q : Phrase} (h : p.rank ≤ q.rank) :
    t.size p ≤ t.size q := by
  cases t with
  | literal l => simp
  | name n => simp
  | signed s t => rw [size_signed, size_signed]; split_ifs <;> omega
  | binary op l r => rw [size_binary, size_binary]; split_ifs <;> omega

theorem Tree.size_le_add_two (t : Tree) (p : Phrase) : t.size p ≤ t.size .expr + 2 := by
  cases t with
  | literal l => simp
  | name n => simp
  | signed s t => rw [size_signed, size_signed]; split_ifs <;> omega
  | binary op l r => rw [size_binary, size_binary]; split_ifs <;> omega

theorem Tree.toExpr_eq_binary {t : Tree} {op : Operation} {l r : Expr}
    (h : t.toExpr = .binary op l r) :
    ∃ l' r', t = .binary op l' r' ∧ l'.toExpr = l ∧ r'.toExpr = r := by
  cases t <;> simp only [Tree.toExpr, reduceCtorEq, Expr.binary.injEq] at h
  obtain ⟨rfl, hl, hr⟩ := h
  exact ⟨_, _, rfl, hl, hr⟩

theorem Tree.toExpr_eq_signed {t : Tree} {s : Sign} {e : Expr} (h : t.toExpr = .signed s e) :
    ∃ t', t = .signed s t' ∧ t'.toExpr = e := by
  cases t <;> simp only [Tree.toExpr, reduceCtorEq, Expr.signed.injEq] at h
  obtain ⟨rfl, ht⟩ := h
  exact ⟨_, rfl, ht⟩

theorem Operation.phrase_of_isAdditive {op : Operation} (h : op.isAdditive = true) :
    op.phrase = .expr ∧ op.rightPhrase = .term := by
  cases op <;> first | exact ⟨rfl, rfl⟩ | cases h

theorem Operation.phrase_of_not_isAdditive {op : Operation} (h : op.isAdditive = false) :
    op.phrase = .term ∧ op.rightPhrase = .unary := by
  cases op <;> first | exact ⟨rfl, rfl⟩ | cases h

/-- No derivation of a tree has fewer tokens than the written tree. -/
theorem Spells.size_le_length {p : Phrase} {d : Nat} {ts : List Placed} {e : Expr}
    (h : Spells p d ts e) : ∀ t : Tree, t.toExpr = e → t.size p ≤ ts.length := by
  induction h with
  | oneTerm h ih =>
    intro t ht
    exact Nat.le_trans (t.size_le_size (by decide)) (ih t ht)
  | moreTerms op hop hl hr ihl ihr =>
    intro t ht
    obtain ⟨l', r', rfl, hl', hr'⟩ := Tree.toExpr_eq_binary ht
    obtain ⟨hphrase, hright⟩ := Operation.phrase_of_isAdditive hop
    have hle := ihl l' hl'
    have hre := ihr r' hr'
    rw [Tree.size_binary, hphrase, hright, if_pos (Nat.le_refl _), List.length_append,
      List.length_cons]
    omega
  | oneUnary h ih =>
    intro t ht
    exact Nat.le_trans (t.size_le_size (by decide)) (ih t ht)
  | moreUnaries op hop hl hr ihl ihr =>
    intro t ht
    obtain ⟨l', r', rfl, hl', hr'⟩ := Tree.toExpr_eq_binary ht
    obtain ⟨hphrase, hright⟩ := Operation.phrase_of_not_isAdditive hop
    have hle := ihl l' hl'
    have hre := ihr r' hr'
    rw [Tree.size_binary, hphrase, hright, if_pos (Nat.le_refl _), List.length_append,
      List.length_cons]
    omega
  | sign s h ih =>
    intro t ht
    obtain ⟨t', rfl, ht'⟩ := Tree.toExpr_eq_signed ht
    rw [Tree.size_signed, if_pos (Nat.le_refl _), List.length_cons]
    exact Nat.succ_le_succ (ih t' ht')
  | unsigned h ih =>
    intro t ht
    exact Nat.le_trans (t.size_le_size (by decide)) (ih t ht)
  | literal text => intro t ht; cases t <;> simp [Tree.toExpr] at ht; simp
  | ident name => intro t ht; cases t <;> simp [Tree.toExpr] at ht; simp
  | parens h ih =>
    -- The tree is written without these parentheses or with them, never with more.
    intro t ht
    have hin := ih t ht
    have hout := t.size_le_add_two .primary
    simp only [List.length_cons, List.length_append, List.length_nil]
    omega

/-! ## Round trip -/

theorem depth_le_foldr {ts : List Placed} {t : Placed} (h : t ∈ ts) :
    t.depth ≤ (ts.map (·.depth)).foldr max 0 := by
  induction ts with
  | nil => cases h
  | cons u ts ih =>
    rw [List.map_cons, List.foldr_cons]
    rcases List.mem_cons.1 h with rfl | h
    · exact Nat.le_max_left _ _
    · exact Nat.le_trans (ih h) (Nat.le_max_right _ _)

theorem Tree.fits {t : Tree} {bound : Nat} (h : t.nesting ≤ bound) :
    Fits bound (t.placed .expr 0) :=
  fun _ hu => Nat.le_trans (depth_le_foldr hu) h

/-- A tree that is written with any white space between its tokens is read back, if it has at most
512 tokens and the limit is at least its nesting. It is written with the fewest tokens possible: no
text that is read as the same tree has fewer. -/
theorem parse_written (t : Tree) (s : String) (limit : Int) (hs : Spaced t.tokens s.toList)
    (hlen : t.tokens.length ≤ 512) (hdeep : (t.nesting : Int) ≤ limit) :
    parse s limit = .ok t.toExpr ∧
      ∀ s' limit', parse s' limit' = .ok t.toExpr →
        ∃ ls, lex s' = .ok ls ∧ t.tokens.length ≤ ls.length := by
  constructor
  · obtain ⟨ls, hlex, heq⟩ := hs.lex_eq (t.wellFormed .expr 0) (t.spells .expr 0).isChain
    refine parse_eq_ok_iff.2 ⟨ls, hlex, ?_, t.placed .expr 0, t.spells .expr 0, heq.symm, ?_⟩
    · rw [← heq, tokensOf, List.length_map] at hlen
      exact hlen
    · exact t.fits (by omega)
  · intro s' limit' h
    obtain ⟨ls, hlex, -, ts, hts, heq, -⟩ := parse_eq_ok_iff.1 h
    have hle := hts.size_le_length t rfl
    have hlen := congrArg List.length heq
    simp only [Placed.tokens, tokensOf, List.length_map] at hlen
    refine ⟨ls, hlex, ?_⟩
    rw [Tree.tokens, Placed.tokens, List.length_map, t.length_placed, ← hlen]
    exact hle

/-- A product of a difference and a signed operand. -/
def signedProduct : Tree :=
  .binary .mul (.binary .sub (.name ⟨['b'], by decide⟩) (.literal ⟨['.', '5'], by decide⟩))
    (.signed .minus (.name ⟨['c'], by decide⟩))

theorem parse_signedProduct :
    signedProduct.tokens.length = 8 ∧ signedProduct.nesting = 1 ∧
      Spaced signedProduct.tokens "(b -.5)\t* -c ".toList ∧
      parse "(b -.5)\t* -c " 1 = .ok signedProduct.toExpr := by
  have htokens : signedProduct.tokens = [.symbol .opening, .ident "b", .symbol .minus,
      .number ".5", .symbol .closing, .symbol .times, .symbol .minus, .ident "c"] := rfl
  have htab : ∀ c ∈ ['\t'], Text.isSpace c = true := List.forall_mem_singleton.2 rfl
  have hblank : ∀ c ∈ [' '], Text.isSpace c = true := List.forall_mem_singleton.2 rfl
  have hright : Spaced [.symbol .closing, .symbol .times, .symbol .minus, .ident "c"] _ :=
    .cons [] (by simp) (.cons _ htab (.cons _ hblank (.cons [] (by simp) (.nil _ hblank))))
  have hspaced : Spaced signedProduct.tokens "(b -.5)\t* -c ".toList := by
    rw [htokens]
    simpa [Token.text, Symbol.char] using Spaced.cons [] (t := .symbol .opening) (by simp)
      (.cons [] (t := .ident "b") (by simp) (.cons _ (t := .symbol .minus) hblank
        (.cons [] (t := .number ".5") (by simp) hright)))
  exact ⟨rfl, rfl, hspaced,
    (parse_written signedProduct _ 1 hspaced (by decide) (by decide)).1⟩

end Scorecard.Expr
