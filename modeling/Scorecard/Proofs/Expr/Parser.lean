import Scorecard.Proofs.Expr.Grammar

/-!
# The parser and the grammar

The parser reads a list of tokens exactly if it is derivable from the grammar and no token stands
inside more signs and parentheses than the limit allows. Soundness follows the recursion of the
parser, completeness the derivation; in both a run of operations is an induction of its own, over
the fuel of `extend` and over the repetition of the grammar.
-/

namespace Scorecard.Expr

theorem additive?_eq_some_iff {t : Token} {op : Operation} :
    additive? t = some op ↔ t = .symbol op.symbol ∧ op.isAdditive = true := by
  constructor
  · intro h
    unfold additive? at h
    split at h <;> simp_all <;> subst h <;> simp [Operation.symbol, Operation.isAdditive]
  · rintro ⟨rfl, h⟩
    cases op <;> simp_all [Operation.isAdditive, Operation.symbol, additive?]

theorem multiplicative?_eq_some_iff {t : Token} {op : Operation} :
    multiplicative? t = some op ↔ t = .symbol op.symbol ∧ op.isAdditive = false := by
  constructor
  · intro h
    unfold multiplicative? at h
    split at h <;> simp_all <;> subst h <;> simp [Operation.symbol, Operation.isAdditive]
  · rintro ⟨rfl, h⟩
    cases op <;> simp_all [Operation.isAdditive, Operation.symbol, multiplicative?]

/-! ## Soundness -/

/-- The lexemes `us` are a phrase `p` with the tree `e` that stands inside `d` signs and
parentheses, and none of them stands inside more than `bound`. -/
def Derivable (bound : Nat) (p : Phrase) (d : Nat) (us : List Lexeme) (e : Expr) : Prop :=
  ∃ ts, Spells p d ts e ∧ Placed.tokens ts = tokensOf us ∧ Fits bound ts

/-- What `extend` takes off the tokens continues the phrase `us` of its left operand, if one more
operation with an operand does. -/
theorem extend_sound {op? : Token → Option Operation} {operand : List Lexeme → Parsed}
    {P Q : List Lexeme → Expr → Prop}
    (hoperand : ∀ {ts e rest}, operand ts = .ok (e, rest) → ∃ us, ts = us ++ rest ∧ P us e)
    (hstep : ∀ {us vs t op l r}, Q us l → op? t.token = some op → P vs r →
      Q (us ++ t :: vs) (.binary op l r)) :
    ∀ {fuel left us ts e rest}, Q us left → extend op? operand fuel left ts = .ok (e, rest) →
      ∃ vs, us ++ ts = vs ++ rest ∧ Q vs e := by
  -- The left operand grows by what each step reads, so its tokens are general in the induction.
  intro fuel
  induction fuel with
  | zero =>
    intro left us ts e rest hq h
    obtain ⟨rfl, rfl⟩ := Prod.mk.inj (Except.ok.inj h)
    exact ⟨us, rfl, hq⟩
  | succ fuel ih =>
    intro left us ts e rest hq h
    cases ts with
    | nil =>
      obtain ⟨rfl, rfl⟩ := Prod.mk.inj (Except.ok.inj h)
      exact ⟨us, rfl, hq⟩
    | cons t ts =>
      rw [extend] at h
      cases hop : op? t.token with
      | none =>
        rw [hop] at h
        obtain ⟨rfl, rfl⟩ := Prod.mk.inj (Except.ok.inj h)
        exact ⟨us, rfl, hq⟩
      | some op =>
        rw [hop] at h
        cases hright : operand ts with
        | error err => rw [hright] at h; cases h
        | ok res =>
          obtain ⟨right, rest₁⟩ := res
          rw [hright] at h
          obtain ⟨ws, rfl, hp⟩ := hoperand hright
          obtain ⟨vs, heq, hv⟩ := ih (hstep hq hop hp) h
          exact ⟨vs, by rw [← heq]; simp, hv⟩

/-- What `chain` takes off the tokens is a phrase `Q`, if an operand is one and one more operation
with an operand continues it. -/
theorem chain_sound {op? : Token → Option Operation} {operand : List Lexeme → Parsed}
    {P Q : List Lexeme → Expr → Prop}
    (hoperand : ∀ {ts e rest}, operand ts = .ok (e, rest) → ∃ us, ts = us ++ rest ∧ P us e)
    (hone : ∀ {us e}, P us e → Q us e)
    (hstep : ∀ {us vs t op l r}, Q us l → op? t.token = some op → P vs r →
      Q (us ++ t :: vs) (.binary op l r)) {ts : List Lexeme} {e : Expr} {rest : List Lexeme}
    (h : chain op? operand ts = .ok (e, rest)) : ∃ us, ts = us ++ rest ∧ Q us e := by
  rw [chain] at h
  cases hleft : operand ts with
  | error err => rw [hleft] at h; cases h
  | ok res =>
    obtain ⟨left, rest₁⟩ := res
    rw [hleft] at h
    obtain ⟨us, rfl, hp⟩ := hoperand hleft
    exact extend_sound hoperand hstep (hone hp) h

variable {bound d : Nat}

theorem Derivable.more {p q : Phrase} {us vs : List Lexeme} {t : Lexeme} {op : Operation}
    {l r : Expr} (ht : t.token = .symbol op.symbol)
    (hmore : ∀ {ts ws}, Spells p d ts l → Spells q d ws r →
      Spells p d (ts ++ ⟨.symbol op.symbol, d⟩ :: ws) (.binary op l r))
    (hd : d ≤ bound) (hl : Derivable bound p d us l) (hr : Derivable bound q d vs r) :
    Derivable bound p d (us ++ t :: vs) (.binary op l r) := by
  obtain ⟨ts, hts, heq, hfit⟩ := hl
  obtain ⟨ws, hws, heq', hfit'⟩ := hr
  refine ⟨_, hmore hts hws, ?_, by simp [hfit, hfit', hd]⟩
  rw [Placed.tokens_append, Placed.tokens_cons, tokensOf_append, tokensOf_cons, heq, heq', ht]

/-- What is read as a sum is derivable as one, if what is read as an operand is. -/
theorem sum_sound {operand : List Lexeme → Parsed} (bound : Nat) (hd : d ≤ bound)
    (hoperand : ∀ {ts e rest}, operand ts = .ok (e, rest) →
      ∃ us, ts = us ++ rest ∧ Derivable bound .unary d us e)
    {ts : List Lexeme} {e : Expr} {rest : List Lexeme} (h : sum operand ts = .ok (e, rest)) :
    ∃ us, ts = us ++ rest ∧ Derivable bound .expr d us e := by
  have hterm : ∀ {ts e rest}, chain multiplicative? operand ts = .ok (e, rest) →
      ∃ us, ts = us ++ rest ∧ Derivable bound .term d us e := by
    intro ts e rest
    refine chain_sound hoperand ?_ ?_
    · rintro us e ⟨ts, hts, hrest⟩
      exact ⟨ts, .oneUnary hts, hrest⟩
    · intro us vs t op l r hl hop hr
      obtain ⟨ht, hrank⟩ := multiplicative?_eq_some_iff.1 hop
      exact Derivable.more ht (fun hts hws => .moreUnaries op hrank hts hws) hd hl hr
  refine chain_sound hterm ?_ ?_ h
  · rintro us e ⟨ts, hts, hrest⟩
    exact ⟨ts, .oneTerm hts, hrest⟩
  · intro us vs t op l r hl hop hr
    obtain ⟨ht, hrank⟩ := additive?_eq_some_iff.1 hop
    exact Derivable.more ht (fun hts hws => .moreTerms op hrank hts hws) hd hl hr

theorem Derivable.single {t : Lexeme} {e : Expr} (h : Spells .primary d [⟨t.token, d⟩] e)
    (hd : d ≤ bound) : Derivable bound .unary d [t] e :=
  ⟨_, .unsigned h, rfl, by simpa using hd⟩

theorem Derivable.sign {us : List Lexeme} {e : Expr} (s : Sign) (position : Nat)
    (h : Derivable bound .unary (d + 1) us e) (hd : d ≤ bound) :
    Derivable bound .unary d (⟨.symbol s.symbol, position⟩ :: us) (.signed s e) := by
  obtain ⟨ts, hts, heq, hfit⟩ := h
  refine ⟨_, .sign s hts, ?_, by simpa [hfit] using hd⟩
  rw [Placed.tokens_cons, tokensOf_cons, heq]

theorem Derivable.parens {us : List Lexeme} {e : Expr} (position position' : Nat)
    (h : Derivable bound .expr (d + 1) us e) (hd : d ≤ bound) :
    Derivable bound .unary d
      (⟨.symbol .opening, position⟩ :: (us ++ [⟨.symbol .closing, position'⟩])) e := by
  obtain ⟨ts, hts, heq, hfit⟩ := h
  refine ⟨_, .unsigned (.parens hts), ?_, by simpa [hfit] using hd⟩
  rw [Placed.tokens_cons, Placed.tokens_append, tokensOf_cons, tokensOf_append, heq]
  rfl

theorem close_eq_ok {e e' : Expr} {ts rest : List Lexeme} (h : close e ts = .ok (e', rest)) :
    e' = e ∧ ∃ position, ts = ⟨.symbol .closing, position⟩ :: rest := by
  unfold close at h
  split at h
  · obtain ⟨rfl, rfl⟩ := Prod.mk.inj (Except.ok.inj h)
    exact ⟨rfl, _, rfl⟩
  · cases h

/-- An operand with a sign is read if there is room for the sign and its operand is read. -/
theorem unary_sign_eq_ok {limit : Int} {room : Nat} {s : Sign} {position : Nat}
    {ts rest : List Lexeme} {e : Expr}
    (h : unary limit room (⟨.symbol s.symbol, position⟩ :: ts) = .ok (e, rest)) :
    ∃ room' e', room = room' + 1 ∧ e = .signed s e' ∧ unary limit room' ts = .ok (e', rest) := by
  cases room with
  | zero => cases s <;> simp [unary, Sign.symbol] at h
  | succ room =>
    cases hu : unary limit room ts with
    | error err => cases s <;> simp [unary, Sign.symbol, hu, bind, Except.bind] at h
    | ok res =>
      obtain ⟨e', rest'⟩ := res
      cases s <;> simp only [unary, Sign.symbol, hu, bind, Except.bind, Except.ok.injEq,
        Prod.mk.injEq] at h <;> obtain ⟨rfl, rfl⟩ := h <;> exact ⟨room, e', rfl, rfl, hu⟩

/-- Parentheses are read if there is room for them and the sum inside is read up to its closing
parenthesis. -/
theorem unary_opening_eq_ok {limit : Int} {room position : Nat} {ts rest : List Lexeme} {e : Expr}
    (h : unary limit room (⟨.symbol .opening, position⟩ :: ts) = .ok (e, rest)) :
    ∃ room' position', room = room' + 1 ∧
      sum (unary limit room') ts = .ok (e, ⟨.symbol .closing, position'⟩ :: rest) := by
  cases room with
  | zero => simp [unary] at h
  | succ room =>
    cases hs : sum (unary limit room) ts with
    | error err => simp [unary, hs, bind, Except.bind] at h
    | ok res =>
      obtain ⟨e', rest'⟩ := res
      simp only [unary, hs, bind, Except.bind] at h
      obtain ⟨rfl, position', rfl⟩ := close_eq_ok h
      exact ⟨room, position', rfl, hs⟩

/-- What is read as an operand is derivable as one, and nothing in it stands inside more signs and
parentheses than there was room for. -/
theorem unary_sound {limit : Int} {room : Nat} : ∀ {d : Nat} {ts : List Lexeme} {e : Expr}
    {rest : List Lexeme}, unary limit room ts = .ok (e, rest) →
      ∃ us, ts = us ++ rest ∧ Derivable (d + room) .unary d us e := by
  -- Each sign or parenthesis moves one from the room to the depth: `d + room` stays as it is.
  induction room using Nat.strongRecOn with
  | ind room ih =>
    intro d ts e rest h
    have hd : d ≤ d + room := Nat.le_add_right d room
    match ts with
    | [] => simp [unary] at h
    | ⟨.number literal, position⟩ :: ts =>
      simp only [unary, Except.ok.injEq, Prod.mk.injEq] at h
      obtain ⟨rfl, rfl⟩ := h
      exact ⟨[_], rfl, .single (.literal literal) hd⟩
    | ⟨.ident name, position⟩ :: ts =>
      simp only [unary, Except.ok.injEq, Prod.mk.injEq] at h
      obtain ⟨rfl, rfl⟩ := h
      exact ⟨[_], rfl, .single (.ident name) hd⟩
    | ⟨.symbol .plus, position⟩ :: ts =>
      obtain ⟨room, e', rfl, rfl, hu⟩ := unary_sign_eq_ok (s := .plus) h
      obtain ⟨us, rfl, hus⟩ := ih room (Nat.lt_succ_self room) (d := d + 1) hu
      rw [Nat.add_right_comm] at hus
      exact ⟨_ :: us, rfl, .sign .plus position hus hd⟩
    | ⟨.symbol .minus, position⟩ :: ts =>
      obtain ⟨room, e', rfl, rfl, hu⟩ := unary_sign_eq_ok (s := .minus) h
      obtain ⟨us, rfl, hus⟩ := ih room (Nat.lt_succ_self room) (d := d + 1) hu
      rw [Nat.add_right_comm] at hus
      exact ⟨_ :: us, rfl, .sign .minus position hus hd⟩
    | ⟨.symbol .opening, position⟩ :: ts =>
      obtain ⟨room, position', rfl, hs⟩ := unary_opening_eq_ok h
      obtain ⟨us, rfl, hus⟩ := sum_sound (d + 1 + room) (Nat.le_add_right _ _)
        (ih room (Nat.lt_succ_self room)) hs
      rw [Nat.add_right_comm] at hus
      exact ⟨_ :: (us ++ [_]), by simp, .parens position position' hus hd⟩
    | ⟨.symbol .times, position⟩ :: ts => cases room <;> simp [unary] at h
    | ⟨.symbol .slash, position⟩ :: ts => cases room <;> simp [unary] at h
    | ⟨.symbol .closing, position⟩ :: ts => cases room <;> simp [unary] at h

/-! ## Completeness -/

/-- What reads a phrase, if `operand` reads an operand. -/
def Phrase.parser (operand : List Lexeme → Parsed) : Phrase → List Lexeme → Parsed
  | expr => sum operand
  | term => chain multiplicative? operand
  | unary | primary => operand

/-- The tokens do not go on with an operation. -/
def Stops (op? : Token → Option Operation) (rest : List Lexeme) : Prop :=
  ∀ t ∈ rest.head?, op? t.token = none

theorem stops_cons {op? : Token → Option Operation} {t : Lexeme} {rest : List Lexeme} :
    Stops op? (t :: rest) ↔ op? t.token = none := by
  simp [Stops]

theorem extend_of_stops {op? : Token → Option Operation} {operand : List Lexeme → Parsed}
    {fuel : Nat} {e : Expr} {rest : List Lexeme} (h : Stops op? rest) :
    extend op? operand fuel e rest = .ok (e, rest) := by
  cases fuel with
  | zero => rfl
  | succ fuel =>
    cases rest with
    | nil => rfl
    | cons t ts => rw [extend, stops_cons.1 h]

theorem extend_of_op {op? : Token → Option Operation} {operand : List Lexeme → Parsed}
    {fuel : Nat} {l r : Expr} {op : Operation} {t : Lexeme} {ts rest : List Lexeme}
    (hop : op? t.token = some op) (h : operand ts = .ok (r, rest)) :
    extend op? operand (fuel + 1) l (t :: ts) = extend op? operand fuel (.binary op l r) rest := by
  rw [extend, hop]
  simp [h, bind, Except.bind]

theorem extend_of_error {op? : Token → Option Operation} {operand : List Lexeme → Parsed}
    {fuel : Nat} {l : Expr} {op : Operation} {t : Lexeme} {ts : List Lexeme} {err : SyntaxError}
    (hop : op? t.token = some op) (h : operand ts = .error err) :
    extend op? operand (fuel + 1) l (t :: ts) = .error err := by
  rw [extend, hop]
  simp [h, bind, Except.bind]

theorem chain_of_ok {op? : Token → Option Operation} {operand : List Lexeme → Parsed}
    {ts rest : List Lexeme} {e : Expr} (h : operand ts = .ok (e, rest)) :
    chain op? operand ts = extend op? operand rest.length e rest := by
  rw [chain, h]
  rfl

theorem chain_of_error {op? : Token → Option Operation} {operand : List Lexeme → Parsed}
    {ts : List Lexeme} {err : SyntaxError} (h : operand ts = .error err) :
    chain op? operand ts = .error err := by
  rw [chain, h]
  rfl

/-- On the tokens `ts`, a run of operations has read `e` and goes on at `rest`, with fuel enough for
all that follows. -/
def Reached (op? : Token → Option Operation) (operand : List Lexeme → Parsed) (e : Expr)
    (ts rest : List Lexeme) : Prop :=
  ∃ fuel, rest.length ≤ fuel ∧ chain op? operand ts = extend op? operand fuel e rest

section Reached

variable {op? : Token → Option Operation} {operand : List Lexeme → Parsed} {l r : Expr}
  {op : Operation} {t : Lexeme} {ts us rest : List Lexeme}

theorem Reached.first (h : operand ts = .ok (l, rest)) : Reached op? operand l ts rest :=
  ⟨rest.length, Nat.le_refl _, chain_of_ok h⟩

theorem Reached.more (h : Reached op? operand l ts (t :: (us ++ rest)))
    (hop : op? t.token = some op) (hr : operand (us ++ rest) = .ok (r, rest)) :
    Reached op? operand (.binary op l r) ts rest := by
  obtain ⟨fuel, hfuel, heq⟩ := h
  rw [List.length_cons, List.length_append] at hfuel
  obtain ⟨fuel, rfl⟩ : ∃ n, fuel = n + 1 := ⟨fuel - 1, by omega⟩
  exact ⟨fuel, by omega, heq.trans (extend_of_op hop hr)⟩

theorem Reached.error (h : Reached op? operand l ts (t :: us)) (hop : op? t.token = some op)
    {err : SyntaxError} (hr : operand us = .error err) : chain op? operand ts = .error err := by
  obtain ⟨fuel, hfuel, heq⟩ := h
  rw [List.length_cons] at hfuel
  obtain ⟨fuel, rfl⟩ : ∃ n, fuel = n + 1 := ⟨fuel - 1, by omega⟩
  exact heq.trans (extend_of_error hop hr)

end Reached

/-- The parser of the phrase `p` takes a phrase with the tree `e` off the tokens `ts` and comes to
`rest`, where the run of operations that it is in goes on. The operations of the higher rank have
ended when a sum goes on. -/
def ReadsAs (operand : List Lexeme → Parsed) (e : Expr) (ts rest : List Lexeme) : Phrase → Prop
  | .expr => Stops multiplicative? rest →
      Reached additive? (chain multiplicative? operand) e ts rest
  | .term => Reached multiplicative? operand e ts rest
  | .unary | .primary => operand ts = .ok (e, rest)

/-- A phrase that no operation follows is read up to its end. -/
theorem ReadsAs.parser_eq {operand : List Lexeme → Parsed} {e : Expr} {ts rest : List Lexeme}
    {p : Phrase} (h : ReadsAs operand e ts rest p) (hadd : Stops additive? rest)
    (hmul : Stops multiplicative? rest) : p.parser operand ts = .ok (e, rest) := by
  cases p with
  | expr =>
    obtain ⟨fuel, -, heq⟩ := h hmul
    exact heq.trans (extend_of_stops hadd)
  | term =>
    obtain ⟨fuel, -, heq⟩ := h
    exact heq.trans (extend_of_stops hmul)
  | unary => exact h
  | primary => exact h

theorem ReadsAs.term_eq {operand : List Lexeme → Parsed} {e : Expr} {ts rest : List Lexeme}
    (h : ReadsAs operand e ts rest .term) (hmul : Stops multiplicative? rest) :
    chain multiplicative? operand ts = .ok (e, rest) := by
  obtain ⟨fuel, -, heq⟩ := h
  exact heq.trans (extend_of_stops hmul)

/-- The phrase stands inside everything that its tokens stand inside. -/
theorem Spells.le_depth {p : Phrase} {d : Nat} {ts : List Placed} {e : Expr}
    (h : Spells p d ts e) : ∀ t ∈ ts, d ≤ t.depth := by
  induction h with
  | oneTerm h ih | oneUnary h ih | unsigned h ih => exact ih
  | moreTerms op hop hl hr ihl ihr
  | moreUnaries op hop hl hr ihl ihr =>
    simp only [List.mem_append, List.mem_cons]
    rintro t (ht | rfl | ht)
    · exact ihl t ht
    · exact Nat.le_refl _
    · exact ihr t ht
  | sign s h ih =>
    simp only [List.mem_cons]
    rintro t (rfl | ht)
    · exact Nat.le_refl _
    · exact Nat.le_of_succ_le (ih t ht)
  | literal text => simp
  | ident name => simp
  | parens h ih =>
    simp only [List.mem_cons, List.mem_append, List.not_mem_nil, or_false]
    rintro t (rfl | ht | rfl)
    · exact Nat.le_refl _
    · exact Nat.le_of_succ_le (ih t ht)
    · exact Nat.le_refl _

/-- Where a phrase fits that stands inside one more sign or parenthesis, there is room for that and
the phrase fits the room that is left. -/
theorem Spells.enter {p : Phrase} {d room : Nat} {ts : List Placed} {e : Expr}
    (h : Spells p (d + 1) ts e) (hfit : Fits (d + room) ts) :
    ∃ room', room = room' + 1 ∧ Fits (d + 1 + room') ts := by
  obtain ⟨t, us, rfl⟩ := List.exists_cons_of_ne_nil h.ne_nil
  have hle := h.le_depth t List.mem_cons_self
  have hge := hfit t List.mem_cons_self
  refine ⟨room - 1, by omega, ?_⟩
  rwa [show d + 1 + (room - 1) = d + room by omega]

theorem tokensOf_eq_nil {us : List Lexeme} (h : tokensOf us = Placed.tokens []) : us = [] :=
  List.map_eq_nil_iff.1 h

/-- Lexemes with the tokens of a phrase that starts with a token start with it. -/
theorem tokensOf_eq_cons {us : List Lexeme} {t : Placed} {ts : List Placed}
    (h : tokensOf us = Placed.tokens (t :: ts)) :
    ∃ position vs, us = ⟨t.token, position⟩ :: vs ∧ tokensOf vs = Placed.tokens ts := by
  obtain ⟨⟨token, position⟩, vs, rfl, rfl, hvs⟩ := List.map_eq_cons_iff.1 h
  exact ⟨position, vs, rfl, hvs⟩

/-- Lexemes with the tokens of an operation between two phrases come apart at the operation. -/
theorem tokensOf_eq_append {us : List Lexeme} {ts vs : List Placed} {t : Placed}
    (h : tokensOf us = Placed.tokens (ts ++ t :: vs)) :
    ∃ as a bs, us = as ++ a :: bs ∧ tokensOf as = Placed.tokens ts ∧ a.token = t.token ∧
      tokensOf bs = Placed.tokens vs := by
  rw [Placed.tokens_append, Placed.tokens_cons] at h
  obtain ⟨as, cs, rfl, has, hcs⟩ := List.map_eq_append_iff.1 h
  obtain ⟨a, bs, rfl, ha, hbs⟩ := List.map_eq_cons_iff.1 hcs
  exact ⟨as, a, bs, rfl, has, ha, hbs⟩

theorem multiplicative?_of_isAdditive {op : Operation} (h : op.isAdditive = true) :
    multiplicative? (.symbol op.symbol) = none := by
  cases op <;> simp_all [Operation.isAdditive, Operation.symbol, multiplicative?]

/-- A phrase that fits is read as its tree, whatever follows it. The induction is on the
derivation; `rest` is general because a phrase on the left of an operation is followed by it. -/
theorem Spells.readsAs (limit : Int) {p : Phrase} {d : Nat} {ts : List Placed} {e : Expr}
    (h : Spells p d ts e) : ∀ {room : Nat} {us : List Lexeme} (rest : List Lexeme),
      tokensOf us = Placed.tokens ts → Fits (d + room) ts →
        ReadsAs (unary limit room) e (us ++ rest) rest p := by
  induction h with
  | oneTerm h ih =>
    intro room us rest hus hfit hmul
    exact Reached.first ((ih rest hus hfit).term_eq hmul)
  | moreTerms op hop hl hr ihl ihr =>
    intro room us rest hus hfit hmul
    obtain ⟨as, a, bs, rfl, has, ha, hbs⟩ := tokensOf_eq_append hus
    obtain ⟨hfitl, hfitr⟩ := fits_append.1 hfit
    have hfitr := (fits_cons.1 hfitr).2
    have hstop : Stops multiplicative? (a :: (bs ++ rest)) := by
      rw [stops_cons, ha]
      exact multiplicative?_of_isAdditive hop
    have hleft : Reached additive? (chain multiplicative? (unary limit room)) _
        (as ++ a :: (bs ++ rest)) (a :: (bs ++ rest)) := ihl _ has hfitl hstop
    rw [List.append_assoc, List.cons_append]
    exact hleft.more (additive?_eq_some_iff.2 ⟨ha, hop⟩) ((ihr rest hbs hfitr).term_eq hmul)
  | oneUnary h ih =>
    intro room us rest hus hfit
    exact Reached.first (ih rest hus hfit)
  | moreUnaries op hop hl hr ihl ihr =>
    intro room us rest hus hfit
    obtain ⟨as, a, bs, rfl, has, ha, hbs⟩ := tokensOf_eq_append hus
    obtain ⟨hfitl, hfitr⟩ := fits_append.1 hfit
    have hfitr := (fits_cons.1 hfitr).2
    have hleft : Reached multiplicative? (unary limit room) _ (as ++ a :: (bs ++ rest))
        (a :: (bs ++ rest)) := ihl _ has hfitl
    rw [List.append_assoc, List.cons_append]
    exact hleft.more (multiplicative?_eq_some_iff.2 ⟨ha, hop⟩) (ihr rest hbs hfitr)
  | sign s h ih =>
    intro room us rest hus hfit
    obtain ⟨position, vs, rfl, hvs⟩ := tokensOf_eq_cons hus
    obtain ⟨room, rfl, hin⟩ := h.enter (fits_cons.1 hfit).2
    have hread := ih rest hvs hin
    simp only [ReadsAs] at hread
    cases s <;> simp [ReadsAs, Sign.symbol, unary, hread, bind, Except.bind]
  | unsigned h ih => exact ih
  | literal text =>
    intro room us rest hus hfit
    obtain ⟨position, vs, rfl, hvs⟩ := tokensOf_eq_cons hus
    obtain rfl := tokensOf_eq_nil hvs
    cases room <;> rfl
  | ident name =>
    intro room us rest hus hfit
    obtain ⟨position, vs, rfl, hvs⟩ := tokensOf_eq_cons hus
    obtain rfl := tokensOf_eq_nil hvs
    cases room <;> rfl
  | parens h ih =>
    intro room us rest hus hfit
    obtain ⟨position, vs, rfl, hvs⟩ := tokensOf_eq_cons hus
    obtain ⟨as, ⟨token, position'⟩, bs, rfl, has, rfl, hbs⟩ := tokensOf_eq_append hvs
    obtain rfl := tokensOf_eq_nil hbs
    obtain ⟨room, rfl, hin⟩ := h.enter (fits_append.1 (fits_cons.1 hfit).2).1
    have hread := (ih (⟨.symbol .closing, position'⟩ :: rest) has hin).parser_eq
      (stops_cons.2 rfl) (stops_cons.2 rfl)
    simp only [Phrase.parser] at hread
    simp [ReadsAs, unary, hread, bind, Except.bind, close]

/-- A phrase that does not fit is refused for its depth, whatever follows it. -/
theorem Spells.tooDeep (limit : Int) {p : Phrase} {d : Nat} {ts : List Placed} {e : Expr}
    (h : Spells p d ts e) : ∀ {room : Nat} {us : List Lexeme} (rest : List Lexeme),
      tokensOf us = Placed.tokens ts → ¬ Fits (d + room) ts →
        p.parser (unary limit room) (us ++ rest) = .error (.tooDeep limit) := by
  induction h with
  | oneTerm h ih =>
    intro room us rest hus hfit
    exact chain_of_error (ih rest hus hfit)
  | @moreTerms d ts vs l r op hop hl hr ihl ihr =>
    intro room us rest hus hfit
    obtain ⟨as, a, bs, rfl, has, ha, hbs⟩ := tokensOf_eq_append hus
    rw [List.append_assoc, List.cons_append]
    -- The left operand is refused if it does not fit; else it is read and the right one is refused.
    by_cases hfitl : Fits (d + room) ts
    · have hfitr : ¬ Fits (d + room) vs := fun h => hfit (by simp [hfitl, h])
      have hstop : Stops multiplicative? (a :: (bs ++ rest)) := by
        rw [stops_cons, ha]
        exact multiplicative?_of_isAdditive hop
      have hleft : Reached additive? (chain multiplicative? (unary limit room)) l
          (as ++ a :: (bs ++ rest)) (a :: (bs ++ rest)) := hl.readsAs limit _ has hfitl hstop
      exact hleft.error (additive?_eq_some_iff.2 ⟨ha, hop⟩) (ihr rest hbs hfitr)
    · exact ihl (a :: (bs ++ rest)) has hfitl
  | oneUnary h ih =>
    intro room us rest hus hfit
    exact chain_of_error (ih rest hus hfit)
  | @moreUnaries d ts vs l r op hop hl hr ihl ihr =>
    intro room us rest hus hfit
    obtain ⟨as, a, bs, rfl, has, ha, hbs⟩ := tokensOf_eq_append hus
    rw [List.append_assoc, List.cons_append]
    by_cases hfitl : Fits (d + room) ts
    · have hfitr : ¬ Fits (d + room) vs := fun h => hfit (by simp [hfitl, h])
      have hleft : Reached multiplicative? (unary limit room) l (as ++ a :: (bs ++ rest))
          (a :: (bs ++ rest)) := hl.readsAs limit _ has hfitl
      exact hleft.error (multiplicative?_eq_some_iff.2 ⟨ha, hop⟩) (ihr rest hbs hfitr)
    · exact ihl (a :: (bs ++ rest)) has hfitl
  | @sign d ts e s h ih =>
    intro room us rest hus hfit
    obtain ⟨position, vs, rfl, hvs⟩ := tokensOf_eq_cons hus
    cases room with
    | zero => cases s <;> rfl
    | succ room =>
      have hfit : ¬ Fits (d + 1 + room) ts := by
        rw [Nat.add_right_comm]
        intro h
        exact hfit (fits_cons.2 ⟨Nat.le_add_right _ _, h⟩)
      have hread := ih rest hvs hfit
      simp only [Phrase.parser] at hread
      cases s <;> simp [Phrase.parser, Sign.symbol, unary, hread, bind, Except.bind]
  | unsigned h ih => exact ih
  | literal text => intro room us rest hus hfit; simp at hfit
  | ident name => intro room us rest hus hfit; simp at hfit
  | @parens d ts e h ih =>
    intro room us rest hus hfit
    obtain ⟨position, vs, rfl, hvs⟩ := tokensOf_eq_cons hus
    obtain ⟨as, ⟨token, position'⟩, bs, rfl, has, rfl, hbs⟩ := tokensOf_eq_append hvs
    cases room with
    | zero => rfl
    | succ room =>
      have hfit : ¬ Fits (d + 1 + room) ts := by
        rw [Nat.add_right_comm]
        intro h
        exact hfit (by simpa [Nat.add_assoc] using h)
      have hread := ih (⟨.symbol .closing, position'⟩ :: bs ++ rest) has hfit
      simp only [Phrase.parser, List.cons_append] at hread
      simp [Phrase.parser, unary, hread, bind, Except.bind]

/-! ## Lists of tokens and texts -/

/-- Tokens of a number that is allowed are read as a sum up to their end. -/
theorem ofLexemes_eq_ok_iff {limit : Int} {ls : List Lexeme} {e : Expr} :
    ofLexemes limit ls = .ok e ↔
      ls ≠ [] ∧ ls.length ≤ tokenLimit ∧ sum (unary limit limit.toNat) ls = .ok (e, []) := by
  cases hls : ls with
  | nil => simp [ofLexemes]
  | cons l ls =>
    by_cases hlen : tokenLimit < (l :: ls).length
    · simp only [ofLexemes, List.isEmpty_cons, if_pos hlen]
      simp only [Bool.false_eq_true, if_false, reduceCtorEq, false_iff]
      exact fun h => absurd h.2.1 (Nat.not_le.2 hlen)
    · simp only [ofLexemes, List.isEmpty_cons, if_neg hlen]
      cases hsum : sum (unary limit limit.toNat) (l :: ls) with
      | error err => simp [bind, Except.bind]
      | ok res =>
        obtain ⟨e', rest⟩ := res
        cases rest with
        | nil =>
          simp only [Bool.false_eq_true, if_false, bind, Except.bind]
          simpa using fun _ => Nat.le_of_not_lt hlen
        | cons t rest => simp [bind, Except.bind]

/-- A text is read as a tree if its tokens are derivable with that tree, as many as are allowed and
none of them too deep. -/
theorem parse_eq_ok_iff {s : String} {limit : Int} {e : Expr} :
    parse s limit = .ok e ↔ ∃ ls, lex s = .ok ls ∧ ls.length ≤ tokenLimit ∧
      Derivable limit.toNat .expr 0 ls e := by
  cases hlex : lex s with
  | error err => simp [parse, hlex, bind, Except.bind]
  | ok ls =>
    have hparse : parse s limit = ofLexemes limit ls := by simp [parse, hlex, bind, Except.bind]
    rw [hparse, ofLexemes_eq_ok_iff]
    constructor
    · rintro ⟨-, hlen, hsum⟩
      obtain ⟨us, rfl, hus⟩ := sum_sound (0 + limit.toNat) (Nat.zero_le _) unary_sound hsum
      rw [List.append_nil, Nat.zero_add] at *
      exact ⟨us, rfl, hlen, hus⟩
    · rintro ⟨_, ⟨⟩, hlen, ts, hts, heq, hfit⟩
      rw [← Nat.zero_add limit.toNat] at hfit
      have hread := (hts.readsAs limit [] heq.symm hfit).parser_eq
        (by simp [Stops]) (by simp [Stops])
      refine ⟨?_, hlen, by simpa [Phrase.parser] using hread⟩
      rintro rfl
      exact hts.ne_nil (List.map_eq_nil_iff.1 heq)

end Scorecard.Expr
