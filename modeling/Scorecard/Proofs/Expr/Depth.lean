import Scorecard.Expr.Parser

/-!
# Raising the depth limit

The limit on nesting decides whether a text is refused for its depth, and nothing else. Two runs of
the parser under different limits are kept in step: the one with more room answers what the other
one answers, unless that refuses the text for its depth.
-/

namespace Scorecard.Expr

/-- `operand'` answers what `operand` answers, where that does not refuse the tokens for being
deeper than `limit`. -/
def Widens (limit : Int) (operand operand' : List Lexeme → Parsed) : Prop :=
  ∀ ts, operand ts = .error (.tooDeep limit) ∨ operand' ts = operand ts

section Widens

variable {limit : Int} {operand operand' : List Lexeme → Parsed}

theorem Widens.extend (h : Widens limit operand operand') (op? : Token → Option Operation)
    (fuel : Nat) (left : Expr) (ts : List Lexeme) :
    extend op? operand fuel left ts = .error (.tooDeep limit) ∨
      extend op? operand' fuel left ts = extend op? operand fuel left ts := by
  induction fuel generalizing left ts with
  | zero => exact .inr rfl
  | succ fuel ih =>
    cases ts with
    | nil => exact .inr rfl
    | cons t ts =>
      rw [Expr.extend, Expr.extend]
      cases hop : op? t.token with
      | none => exact .inr rfl
      | some op =>
        rcases h ts with hdeep | heq
        · exact .inl (by simp [hdeep, bind, Except.bind])
        · simp only [heq]
          cases hright : operand ts with
          | error err => exact .inr rfl
          | ok res => exact ih (.binary op left res.1) res.2

theorem Widens.chain (h : Widens limit operand operand') (op? : Token → Option Operation) :
    Widens limit (chain op? operand) (chain op? operand') := by
  intro ts
  rw [Expr.chain, Expr.chain]
  rcases h ts with hdeep | heq
  · exact .inl (by simp [hdeep, bind, Except.bind])
  · rw [heq]
    cases hleft : operand ts with
    | error err => exact .inr rfl
    | ok res => exact h.extend op? res.2.length res.1 res.2

theorem Widens.sum (h : Widens limit operand operand') :
    Widens limit (sum operand) (sum operand') :=
  (h.chain multiplicative?).chain additive?

end Widens

/-- With more room an operand is read as it is with less, unless that is too little. -/
theorem unary_widens (limit limit' : Int) {room room' : Nat} (h : room ≤ room') :
    Widens limit (unary limit room) (unary limit' room') := by
  induction room generalizing room' with
  | zero =>
    intro ts
    match ts with
    | [] => exact .inr (by cases room' <;> rfl)
    | ⟨.number literal, _⟩ :: ts => exact .inr (by cases room' <;> rfl)
    | ⟨.ident name, _⟩ :: ts => exact .inr (by cases room' <;> rfl)
    | ⟨.symbol .plus, _⟩ :: ts => exact .inl rfl
    | ⟨.symbol .minus, _⟩ :: ts => exact .inl rfl
    | ⟨.symbol .opening, _⟩ :: ts => exact .inl rfl
    | ⟨.symbol .times, _⟩ :: ts => exact .inr (by cases room' <;> rfl)
    | ⟨.symbol .slash, _⟩ :: ts => exact .inr (by cases room' <;> rfl)
    | ⟨.symbol .closing, _⟩ :: ts => exact .inr (by cases room' <;> rfl)
  | succ room ih =>
    obtain ⟨room', rfl⟩ : ∃ n, room' = n + 1 := ⟨room' - 1, by omega⟩
    have hin : Widens limit (unary limit room) (unary limit' room') := ih (Nat.le_of_succ_le_succ h)
    intro ts
    match ts with
    | [] => exact .inr rfl
    | ⟨.number literal, _⟩ :: ts => exact .inr rfl
    | ⟨.ident name, _⟩ :: ts => exact .inr rfl
    | ⟨.symbol .times, _⟩ :: ts => exact .inr rfl
    | ⟨.symbol .slash, _⟩ :: ts => exact .inr rfl
    | ⟨.symbol .closing, _⟩ :: ts => exact .inr rfl
    -- A sign or a parenthesis takes one from both rooms, and what is inside keeps in step.
    | ⟨.symbol .plus, _⟩ :: ts =>
      rcases hin ts with hdeep | heq
      · exact .inl (by simp [unary, hdeep, bind, Except.bind])
      · exact .inr (by simp [unary, heq])
    | ⟨.symbol .minus, _⟩ :: ts =>
      rcases hin ts with hdeep | heq
      · exact .inl (by simp [unary, hdeep, bind, Except.bind])
      · exact .inr (by simp [unary, heq])
    | ⟨.symbol .opening, _⟩ :: ts =>
      rcases hin.sum ts with hdeep | heq
      · exact .inl (by simp [unary, hdeep, bind, Except.bind])
      · exact .inr (by simp [unary, heq])

/-- Under a higher limit a text is parsed as it is under a lower one, unless that refuses it for its
depth. -/
theorem parse_widens (s : String) {limit limit' : Int} (h : limit ≤ limit') :
    parse s limit = .error (.tooDeep limit) ∨ parse s limit' = parse s limit := by
  cases hlex : lex s with
  | error err => exact .inr (by simp [parse, hlex, bind, Except.bind])
  | ok ls =>
    simp only [parse, hlex, bind, Except.bind]
    unfold ofLexemes
    by_cases hempty : ls.isEmpty = true
    · exact .inr (by simp only [if_pos hempty])
    · by_cases hlong : tokenLimit < ls.length
      · exact .inr (by simp only [if_neg hempty, if_pos hlong])
      · simp only [if_neg hempty, if_neg hlong]
        have hroom : limit.toNat ≤ limit'.toNat := Int.toNat_le_toNat h
        rcases (unary_widens limit limit' hroom).sum ls with hdeep | heq
        · exact .inl (by simp [hdeep, bind, Except.bind])
        · exact .inr (by simp only [heq])

theorem parse_of_le {s : String} {limit limit' : Int} {e : Expr} (h : limit ≤ limit')
    (hparse : parse s limit = .ok e) : parse s limit' = .ok e := by
  rcases parse_widens s h with hdeep | heq
  · rw [hparse] at hdeep
    cases hdeep
  · rw [heq, hparse]

theorem isValid_of_le {s : String} {limit limit' : Int} (h : limit ≤ limit')
    (hvalid : isValid s limit = true) : isValid s limit' = true := by
  unfold isValid at hvalid ⊢
  cases hparse : parse (Text.trim s) limit with
  | error err => simp [hparse] at hvalid
  | ok e => rw [parse_of_le h hparse]

/-- A text that spells an expression has the same value under a higher limit. -/
theorem evaluate?_of_le {s : String} {limit limit' : Int} (h : limit ≤ limit')
    (hvalid : isValid s limit = true) (lookup : String → Option Float) :
    evaluate? s limit' lookup = evaluate? s limit lookup := by
  unfold isValid at hvalid
  unfold evaluate?
  cases hparse : parse (Text.trim s) limit with
  | error err => simp [hparse] at hvalid
  | ok e => rw [parse_of_le h hparse]

end Scorecard.Expr
