import Scorecard.Proofs.Expr.Hole
import Scorecard.Proofs.Expr.Lexer
import Scorecard.Proofs.Expr.Parser
import Scorecard.Proofs.Sequence

/-!
# Parts in parentheses

A text that is an expression and has another one in parentheses in it is parsed into a tree with a
hole, filled with the tree of the part; the hole is the same whatever stands in the parentheses.
What is derivable has its parentheses in pairs, so that the two around the part belong together.
-/

namespace Scorecard.Expr

open Text (trim)

/-! ## Parentheses in pairs -/

/-- One for an opening parenthesis and one less for a closing one. -/
def Token.nesting : Token → Int
  | symbol .opening => 1
  | symbol .closing => -1
  | symbol _ | ident _ | number _ => 0

/-- How many of the parentheses that the tokens open they leave open. -/
def net (ts : List Token) : Int :=
  (ts.map Token.nesting).sum

@[simp]
theorem net_nil : net [] = 0 :=
  rfl

@[simp]
theorem net_cons (t : Token) (ts : List Token) : net (t :: ts) = t.nesting + net ts :=
  List.sum_cons

@[simp]
theorem net_append (ts us : List Token) : net (ts ++ us) = net ts + net us := by
  rw [net, List.map_append, List.sum_append, net, net]

/-- Tokens whose parentheses are in pairs. -/
structure Balanced (ts : List Token) : Prop where
  /-- No parenthesis is closed that is not open. -/
  opened : ∀ us, us <+: ts → 0 ≤ net us
  /-- None is left open. -/
  closed : net ts = 0

theorem balanced_singleton {t : Token} (h : t.nesting = 0) : Balanced [t] where
  opened := by
    intro us hus
    rcases List.prefix_cons_iff.1 hus with rfl | ⟨vs, rfl, hvs⟩
    · exact Int.le_refl 0
    · rw [List.prefix_nil.1 hvs, net_cons, h, net_nil]
      exact Int.le_refl 0
  closed := by rw [net_cons, h, net_nil, Int.add_zero]

theorem Balanced.append {ts us : List Token} (hts : Balanced ts) (hus : Balanced us) :
    Balanced (ts ++ us) where
  opened := by
    rintro vs ⟨ws, hws⟩
    rcases List.append_eq_append_iff.1 hws with ⟨rest, rfl, -⟩ | ⟨rest, rfl, rfl⟩
    · exact hts.opened vs (List.prefix_append _ _)
    · rw [net_append, hts.closed, Int.zero_add]
      exact hus.opened rest (List.prefix_append _ _)
  closed := by rw [net_append, hts.closed, hus.closed, Int.add_zero]

theorem Balanced.parenthesized {ts : List Token} (h : Balanced ts) :
    Balanced (.symbol .opening :: (ts ++ [.symbol .closing])) where
  opened := by
    intro us hus
    rcases List.prefix_cons_iff.1 hus with rfl | ⟨vs, rfl, hvs⟩
    · exact Int.le_refl 0
    · rw [net_cons, Token.nesting]
      rcases List.prefix_concat_iff.1 hvs with rfl | hvs
      · rw [net_append, h.closed, net_cons, Token.nesting, net_nil]
        decide
      · have := h.opened vs hvs
        omega
  closed := by
    rw [net_cons, net_append, h.closed, net_cons, net_nil]
    rfl

/-- What is derivable has its parentheses in pairs. -/
theorem Spells.balanced {p : Phrase} {d : Nat} {ts : List Placed} {e : Expr}
    (h : Spells p d ts e) : Balanced (Placed.tokens ts) := by
  induction h with
  | oneTerm _ ih | oneUnary _ ih | unsigned _ ih => exact ih
  | moreTerms op hop _ _ ihl ihr
  | moreUnaries op hop _ _ ihl ihr =>
    have hop : Balanced [.symbol op.symbol] := balanced_singleton (by cases op <;> rfl)
    rw [Placed.tokens_append, Placed.tokens_cons]
    exact ihl.append (hop.append ihr)
  | sign s _ ih =>
    have hs : Balanced [.symbol s.symbol] := balanced_singleton (by cases s <;> rfl)
    exact hs.append ih
  | literal text => exact balanced_singleton rfl
  | ident name => exact balanced_singleton rfl
  | parens _ ih =>
    rw [Placed.tokens_cons, Placed.tokens_append]
    exact ih.parenthesized

/-- Tokens with a part in parentheses. -/
def enclosed (before inside after : List Token) : List Token :=
  before ++ .symbol .opening :: (inside ++ .symbol .closing :: after)

theorem append_enclosed (ts before inside after : List Token) :
    enclosed (ts ++ before) inside after = ts ++ enclosed before inside after :=
  List.append_assoc _ _ _

theorem enclosed_append (before inside after us : List Token) :
    enclosed before inside (after ++ us) = enclosed before inside after ++ us := by
  simp [enclosed]

section Matching

variable {before inside after ts us : List Token} {t : Token}

/-- What is in parentheses is on one side of a token between balanced tokens. -/
theorem Balanced.enclosed_append (hts : Balanced ts) (hinside : Balanced inside)
    (ht : t ≠ .symbol .opening) (h : ts ++ t :: us = enclosed before inside after) :
    (∃ after', ts = enclosed before inside after' ∧ after = after' ++ t :: us) ∨
      ∃ before', us = enclosed before' inside after ∧ before = ts ++ t :: before' := by
  rcases List.append_eq_append_iff.1 h with ⟨middle, rfl, hmiddle⟩ | ⟨middle, rfl, hmiddle⟩
  · cases middle with
    | nil => exact absurd (List.cons.inj hmiddle).1 ht
    | cons u before' =>
      obtain ⟨rfl, rfl⟩ := List.cons.inj hmiddle
      exact .inr ⟨before', rfl, rfl⟩
  · cases middle with
    | nil => exact absurd (List.cons.inj hmiddle).1.symm ht
    | cons u middle =>
      obtain ⟨rfl, hpart⟩ := List.cons.inj hmiddle
      -- The part cannot reach past the end of `ts`, where its parenthesis would be left open.
      have hopen : ¬ middle <+: inside := by
        intro hprefix
        have hclosed := hts.closed
        have hbefore := hts.opened before (List.prefix_append _ _)
        have hmiddle := hinside.opened middle hprefix
        rw [net_append, net_cons, Token.nesting] at hclosed
        omega
      rcases List.append_eq_append_iff.1 hpart with ⟨rest, rfl, hrest⟩ | ⟨rest, rfl, hrest⟩
      · cases rest with
        | nil => exact absurd (by simp) hopen
        | cons v after' =>
          obtain ⟨rfl, rfl⟩ := List.cons.inj hrest
          exact .inl ⟨after', rfl, rfl⟩
      · exact absurd (List.prefix_append _ _) hopen

/-- What is in parentheses is all that stands in a pair of them, or inside it. -/
theorem Balanced.enclosed_parenthesized (hts : Balanced ts) (hinside : Balanced inside)
    (h : .symbol .opening :: (ts ++ [.symbol .closing]) = enclosed before inside after) :
    (before = [] ∧ ts = inside ∧ after = []) ∨
      ∃ before' after', ts = enclosed before' inside after' ∧
        before = .symbol .opening :: before' ∧ after = after' ++ [.symbol .closing] := by
  cases before with
  | nil =>
    have hsame : ts ++ [.symbol .closing] = inside ++ .symbol .closing :: after :=
      (List.cons.inj h).2
    rcases List.append_eq_append_iff.1 hsame with ⟨rest, rfl, hrest⟩ | ⟨rest, rfl, hrest⟩
    · cases rest with
      | nil => exact .inl ⟨rfl, (List.append_nil _).symm, (List.cons.inj hrest).2.symm⟩
      | cons u rest => simp at hrest
    · cases rest with
      | nil => exact .inl ⟨rfl, List.append_nil _, (List.cons.inj hrest).2⟩
      | cons u rest =>
        obtain ⟨rfl, -⟩ := List.cons.inj hrest
        -- The closing parenthesis of the part would close none.
        have hopened := hts.opened (inside ++ [.symbol .closing])
          ⟨rest, by rw [List.append_assoc, List.singleton_append]⟩
        rw [net_append, hinside.closed, net_cons, Token.nesting, net_nil] at hopened
        omega
  | cons u before' =>
    obtain ⟨rfl, hrest⟩ := List.cons.inj h
    rcases hts.enclosed_append hinside (by decide) hrest with
      ⟨after', hts', rfl⟩ | ⟨before'', hnil, -⟩
    · exact .inr ⟨before', after', hts', rfl, rfl⟩
    · simp [enclosed] at hnil

end Matching

/-! ## Derivations with a part in parentheses -/

/-- The tokens `ts` are derivable from the phrase `p` with the tree `e`. -/
def Spelled (p : Phrase) (d : Nat) (ts : List Token) (e : Expr) : Prop :=
  ∃ us, Spells p d us e ∧ Placed.tokens us = ts

section Spelled

variable {p q : Phrase} {d : Nat} {ts us : List Token} {e l r : Expr}

theorem Spelled.imp (hpq : ∀ {ts}, Spells p d ts e → Spells q d ts e) (h : Spelled p d ts e) :
    Spelled q d ts e := by
  obtain ⟨us, hus, htokens⟩ := h
  exact ⟨us, hpq hus, htokens⟩

theorem Spelled.binary {op : Operation}
    (hmore : ∀ {ts us l r}, Spells p d ts l → Spells q d us r →
      Spells p d (ts ++ ⟨.symbol op.symbol, d⟩ :: us) (.binary op l r))
    (hl : Spelled p d ts l) (hr : Spelled q d us r) :
    Spelled p d (ts ++ .symbol op.symbol :: us) (.binary op l r) := by
  obtain ⟨ls, hls, rfl⟩ := hl
  obtain ⟨rs, hrs, rfl⟩ := hr
  exact ⟨_, hmore hls hrs, Placed.tokens_append _ _⟩

theorem Spelled.sign (s : Sign) (h : Spelled .unary (d + 1) ts e) :
    Spelled .unary d (.symbol s.symbol :: ts) (.signed s e) := by
  obtain ⟨us, hus, rfl⟩ := h
  exact ⟨_, .sign s hus, rfl⟩

theorem Spelled.parens (h : Spelled .expr (d + 1) ts e) :
    Spelled .primary d (.symbol .opening :: (ts ++ [.symbol .closing])) e := by
  obtain ⟨us, hus, rfl⟩ := h
  exact ⟨_, .parens hus, by rw [Placed.tokens_cons, Placed.tokens_append]; rfl⟩

end Spelled

/-- A phrase is derivable inside any number of signs and parentheses. -/
theorem Spells.at_depth {p : Phrase} {d : Nat} {ts : List Placed} {e : Expr}
    (h : Spells p d ts e) : ∀ d', Spelled p d' (Placed.tokens ts) e := by
  induction h with
  | oneTerm _ ih => exact fun d' => (ih d').imp .oneTerm
  | moreTerms op hop _ _ ihl ihr =>
    intro d'
    rw [Placed.tokens_append, Placed.tokens_cons]
    exact .binary (fun hl hr => .moreTerms op hop hl hr) (ihl d') (ihr d')
  | oneUnary _ ih => exact fun d' => (ih d').imp .oneUnary
  | moreUnaries op hop _ _ ihl ihr =>
    intro d'
    rw [Placed.tokens_append, Placed.tokens_cons]
    exact .binary (fun hl hr => .moreUnaries op hop hl hr) (ihl d') (ihr d')
  | sign s _ ih => exact fun d' => .sign s (ih (d' + 1))
  | unsigned _ ih => exact fun d' => (ih d').imp .unsigned
  | literal text => exact fun d' => ⟨_, .literal text, rfl⟩
  | ident name => exact fun d' => ⟨_, .ident name, rfl⟩
  | parens _ ih =>
    intro d'
    rw [Placed.tokens_cons, Placed.tokens_append]
    exact .parens (ih (d' + 1))

/-- Between the tokens `before` and `after` any expression in parentheses can stand, and its tree
fills the hole of the whole. -/
def Surrounds (p : Phrase) (d : Nat) (before after : List Token) (hole : Hole) : Prop :=
  ∀ {ts part}, Spells .expr 0 ts part →
    Spelled p d (enclosed before (Placed.tokens ts) after) (hole.fill part)

section Surrounds

variable {p q : Phrase} {d : Nat} {before inside after : List Token} {hole : Hole}

theorem Surrounds.imp (hpq : ∀ {ts e}, Spells p d ts e → Spells q d ts e)
    (h : Surrounds p d before after hole) : Surrounds q d before after hole :=
  fun hpart => (h hpart).imp hpq

theorem Surrounds.left {op : Operation} {us : List Placed} {r : Expr}
    (hmore : ∀ {ts us l r}, Spells p d ts l → Spells q d us r →
      Spells p d (ts ++ ⟨.symbol op.symbol, d⟩ :: us) (.binary op l r))
    (h : Surrounds p d before after hole) (hr : Spells q d us r) :
    Surrounds p d before (after ++ .symbol op.symbol :: Placed.tokens us) (.left op hole r) := by
  intro ts part hpart
  rw [enclosed_append]
  exact .binary hmore (h hpart) ⟨us, hr, rfl⟩

theorem Surrounds.right {op : Operation} {ts : List Placed} {l : Expr}
    (hmore : ∀ {ts us l r}, Spells p d ts l → Spells q d us r →
      Spells p d (ts ++ ⟨.symbol op.symbol, d⟩ :: us) (.binary op l r))
    (hl : Spells p d ts l) (h : Surrounds q d before after hole) :
    Surrounds p d (Placed.tokens ts ++ .symbol op.symbol :: before) after (.right op l hole) := by
  intro us part hpart
  rw [append_enclosed]
  exact .binary hmore ⟨ts, hl, rfl⟩ (h hpart)

/-- The part is on one side of an operation. -/
theorem Spells.exists_surrounds_binary {op : Operation} {ts us : List Placed} {l r : Expr}
    (hmore : ∀ {ts us l r}, Spells p d ts l → Spells q d us r →
      Spells p d (ts ++ ⟨.symbol op.symbol, d⟩ :: us) (.binary op l r))
    (hl : Spells p d ts l) (hr : Spells q d us r) (hinside : Balanced inside)
    (ihl : ∀ {before after}, Placed.tokens ts = enclosed before inside after →
      ∃ hole, Surrounds p d before after hole)
    (ihr : ∀ {before after}, Placed.tokens us = enclosed before inside after →
      ∃ hole, Surrounds q d before after hole)
    (h : Placed.tokens (ts ++ ⟨.symbol op.symbol, d⟩ :: us) = enclosed before inside after) :
    ∃ hole, Surrounds p d before after hole := by
  have hop : Token.symbol op.symbol ≠ .symbol .opening := by
    cases op <;> decide
  rw [Placed.tokens_append, Placed.tokens_cons] at h
  rcases hl.balanced.enclosed_append hinside hop h with ⟨after', hts, rfl⟩ | ⟨before', hus, rfl⟩
  · obtain ⟨hole, hhole⟩ := ihl hts
    exact ⟨.left op hole r, hhole.left hmore hr⟩
  · obtain ⟨hole, hhole⟩ := ihr hus
    exact ⟨.right op l hole, Surrounds.right hmore hl hhole⟩

/-- A derivation with a part in parentheses has a hole there. The induction is on the derivation: an
operation has the part on one of its sides, and a pair of parentheses is that of the part or has the
part inside it. -/
theorem Spells.exists_surrounds {ts : List Placed} {e : Expr} (h : Spells p d ts e)
    (hinside : Balanced inside) :
    ∀ {before after}, Placed.tokens ts = enclosed before inside after →
      ∃ hole, Surrounds p d before after hole := by
  induction h with
  | oneTerm _ ih =>
    intro before after htokens
    obtain ⟨hole, hhole⟩ := ih htokens
    exact ⟨hole, hhole.imp .oneTerm⟩
  | moreTerms op hop hl hr ihl ihr =>
    exact exists_surrounds_binary (fun hl hr => .moreTerms op hop hl hr) hl hr hinside ihl ihr
  | oneUnary _ ih =>
    intro before after htokens
    obtain ⟨hole, hhole⟩ := ih htokens
    exact ⟨hole, hhole.imp .oneUnary⟩
  | moreUnaries op hop hl hr ihl ihr =>
    exact exists_surrounds_binary (fun hl hr => .moreUnaries op hop hl hr) hl hr hinside ihl ihr
  | sign s _ ih =>
    intro before after htokens
    have hs : Token.symbol s.symbol ≠ .symbol .opening := by
      cases s <;> decide
    cases before with
    | nil => exact absurd (List.cons.inj htokens).1 hs
    | cons t before =>
      obtain ⟨rfl, hrest⟩ := List.cons.inj htokens
      obtain ⟨hole, hhole⟩ := ih hrest
      exact ⟨.signed s hole, fun hpart => .sign s (hhole hpart)⟩
  | unsigned _ ih =>
    intro before after htokens
    obtain ⟨hole, hhole⟩ := ih htokens
    exact ⟨hole, hhole.imp .unsigned⟩
  | literal text | ident name =>
    intro before after htokens
    have hlength := congrArg List.length htokens
    simp [Placed.tokens, enclosed] at hlength
    omega
  | parens h ih =>
    intro before after htokens
    rw [Placed.tokens, List.map_cons, List.map_append] at htokens
    rcases h.balanced.enclosed_parenthesized hinside htokens with
      ⟨rfl, -, rfl⟩ | ⟨before', after', hts, rfl, rfl⟩
    · exact ⟨.here, fun hpart => .parens (hpart.at_depth _)⟩
    · obtain ⟨hole, hhole⟩ := ih hts
      refine ⟨hole, fun hpart => ?_⟩
      have hwhole := Spelled.parens (hhole hpart)
      rwa [← enclosed_append] at hwhole

end Surrounds

/-! ## One tree -/

theorem exists_fits (ts : List Placed) : ∃ bound, Fits bound ts := by
  induction ts with
  | nil => exact ⟨0, fits_nil 0⟩
  | cons t ts ih =>
    obtain ⟨bound, hbound⟩ := ih
    refine ⟨max t.depth bound, fits_cons.2 ⟨Nat.le_max_left _ _, fun u hu => ?_⟩⟩
    exact Nat.le_trans (hbound u hu) (Nat.le_max_right _ _)

/-- With enough room, tokens that are derivable as an expression are read as its tree. -/
theorem Spelled.exists_room {d : Nat} {ts : List Token} {e : Expr} (h : Spelled .expr d ts e) :
    ∃ room₀, ∀ room, room₀ ≤ room →
      sum (unary 0 room) (ts.map fun t => ⟨t, 0⟩) = .ok (e, []) := by
  obtain ⟨us, hus, rfl⟩ := h
  obtain ⟨bound, hbound⟩ := exists_fits us
  refine ⟨bound, fun room hroom => ?_⟩
  have hfit : Fits (d + room) us := fun t ht =>
    Nat.le_trans (hbound t ht) (Nat.le_trans hroom (Nat.le_add_left room d))
  have htokens : tokensOf ((Placed.tokens us).map fun t => ⟨t, 0⟩) = Placed.tokens us := by
    rw [tokensOf, List.map_map]
    exact List.map_id _
  have hread := hus.readsAs 0 [] htokens hfit
  rw [List.append_nil] at hread
  exact hread.parser_eq (fun _ h => absurd h (Option.not_mem_none _))
    (fun _ h => absurd h (Option.not_mem_none _))

/-- The tokens of an expression have one tree. -/
theorem Spelled.unique {d d' : Nat} {ts : List Token} {e e' : Expr} (h : Spelled .expr d ts e)
    (h' : Spelled .expr d' ts e') : e = e' := by
  obtain ⟨room, hroom⟩ := h.exists_room
  obtain ⟨room', hroom'⟩ := h'.exists_room
  have hread := hroom (max room room') (Nat.le_max_left _ _)
  have hread' := hroom' (max room room') (Nat.le_max_right _ _)
  exact (Prod.mk.inj (Except.ok.inj (hread.symm.trans hread'))).1

/-! ## Texts with a part in parentheses -/

/-- What is parsed is derivable from the tokens of the text. -/
theorem parse_trim_spelled {s : String} {limit : Int} {e : Expr}
    (h : parse (trim s) limit = .ok e) :
    ∃ ts, tokens? s.toList = some ts ∧ Spelled .expr 0 ts e := by
  obtain ⟨ls, hlex, -, ts, hts, htokens, -⟩ := parse_eq_ok_iff.1 h
  exact ⟨tokensOf ls, lex_trim_eq_ok hlex, ts, hts, htokens⟩

/-- A text with a part in parentheses. -/
def aroundPart (before inside after : String) : String :=
  before ++ "(" ++ inside ++ ")" ++ after

theorem tokens?_aroundPart {before inside after : String} {ts : List Token}
    (h : tokens? (aroundPart before inside after).toList = some ts) :
    ∃ bs as, tokens? before.toList = some bs ∧ tokens? after.toList = some as ∧
      ∃ us, tokens? inside.toList = some us ∧ ts = enclosed bs us as := by
  have hchars : (aroundPart before inside after).toList = before.toList ++
      Symbol.opening.char :: (inside.toList ++ Symbol.closing.char :: after.toList) := by
    simp [aroundPart, Symbol.char]
  rw [hchars, tokens?_append_symbol, tokens?_append_symbol] at h
  simp only [Option.bind_eq_some_iff, Option.map_eq_some_iff] at h
  obtain ⟨bs, hbs, _, ⟨us, hus, as, has, rfl⟩, rfl⟩ := h
  exact ⟨bs, as, hbs, has, us, hus, rfl⟩

/-- The text around a part in parentheses is a tree with a hole: the whole is parsed into this tree
with the tree of the part in the hole, whatever the part is. -/
theorem exists_hole (before after : String) :
    ∃ hole : Hole, ∀ {inside limit part whole}, parse (trim inside) limit = .ok part →
      parse (trim (aroundPart before inside after)) limit = .ok whole →
        whole = hole.fill part := by
  by_cases hany : ∃ inside limit part whole, parse (trim inside) limit = .ok part ∧
      parse (trim (aroundPart before inside after)) limit = .ok whole
  · obtain ⟨inside, limit, part, whole, hpart, hwhole⟩ := hany
    obtain ⟨us, hus, ps, hps, rfl⟩ := parse_trim_spelled hpart
    obtain ⟨ts, hts, ws, hws, rfl⟩ := parse_trim_spelled hwhole
    obtain ⟨bs, as, hbs, has, us', hus', htokens⟩ := tokens?_aroundPart hts
    obtain rfl := Option.some.inj (hus.symm.trans hus')
    obtain ⟨hole, hhole⟩ := hws.exists_surrounds hps.balanced htokens
    -- Another part is put into the same hole, and its tokens have no other tree.
    refine ⟨hole, fun {inside limit part whole} hpart hwhole => ?_⟩
    obtain ⟨us, hus, ps, hps, rfl⟩ := parse_trim_spelled hpart
    obtain ⟨ts, hts, hwhole⟩ := parse_trim_spelled hwhole
    obtain ⟨bs', as', hbs', has', us', hus', rfl⟩ := tokens?_aroundPart hts
    obtain rfl := Option.some.inj (hbs.symm.trans hbs')
    obtain rfl := Option.some.inj (has.symm.trans has')
    obtain rfl := Option.some.inj (hus.symm.trans hus')
    exact hwhole.unique (hhole hps)
  · exact ⟨.here, fun hpart hwhole => absurd ⟨_, _, _, _, hpart, hwhole⟩ hany⟩

theorem evaluate?_eq_value? {s : String} {limit : Int} {e : Expr} (h : parse (trim s) limit = .ok e)
    (lookup : String → Option Float) : evaluate? s limit lookup = e.value? lookup := by
  rw [evaluate?, h]

/-- A text with a part in parentheses has no value if the part has none, unless the part comes to an
infinity and stands in a divisor. -/
theorem evaluate?_aroundPart (before after : String) :
    ∃ hole : Hole, ∀ (inside : String) (limit : Int) (part whole : Expr) (readings : Readings),
      parse (trim inside) limit = .ok part →
      parse (trim (aroundPart before inside after)) limit = .ok whole →
        whole = hole.fill part ∧
          (evaluate? inside limit readings.value? = none →
            evaluate? (aroundPart before inside after) limit readings.value? = none ∨
              hole.inDivisor = true ∧
                ∃ x, part.eval? readings.value? = some x ∧ x.isInf = true) := by
  obtain ⟨hole, hhole⟩ := exists_hole before after
  refine ⟨hole, fun inside limit part whole readings hpart hwhole => ?_⟩
  have hfill := hhole hpart hwhole
  refine ⟨hfill, fun hnone => ?_⟩
  rw [evaluate?_eq_value? hpart] at hnone
  rw [evaluate?_eq_value? hwhole, hfill]
  exact hole.value?_fill_eq_none hnone

/-- A quotient by a KPI that is zero, in parentheses between a difference and a product. -/
theorem evaluate?_aroundPart_zero :
    let readings : Readings := ⟨[⟨"revenue", "revenue", some 9.0⟩, ⟨"costs", "Costs", some 4.0⟩,
      ⟨"staff", "staff", some 0.0⟩]⟩
    ∃ (hole : Hole) (part whole : Expr), parse (trim " costs / STAFF ") 32 = .ok part ∧
      parse (trim (aroundPart "revenue - " " costs / STAFF " " * 2")) 32 = .ok whole ∧
        evaluate? " costs / STAFF " 32 readings.value? = none ∧ whole = hole.fill part ∧
          (evaluate? (aroundPart "revenue - " " costs / STAFF " " * 2") 32 readings.value? = none ∨
            hole.inDivisor = true ∧
              ∃ x, part.eval? readings.value? = some x ∧ x.isInf = true) := by
  intro readings
  obtain ⟨part, hpart⟩ := exists_eq_ok
    (by decide +kernel : (parse (trim " costs / STAFF ") 32).isOk = true)
  obtain ⟨whole, hwhole⟩ := exists_eq_ok (by decide +kernel :
    (parse (trim (aroundPart "revenue - " " costs / STAFF " " * 2")) 32).isOk = true)
  have hnone : evaluate? " costs / STAFF " 32 readings.value? = none := by
    rw [← Option.isNone_iff_eq_none]
    decide +kernel
  obtain ⟨hole, hhole⟩ := evaluate?_aroundPart "revenue - " " * 2"
  obtain ⟨hfill, hvalue⟩ := hhole " costs / STAFF " 32 part whole readings hpart hwhole
  exact ⟨hole, part, whole, hpart, hwhole, hnone, hfill, hvalue hnone⟩

/-- A product that overflows has no value alone, and a quotient by it is zero. -/
theorem evaluate?_overflow_in_divisor :
    ¬ ∀ (before inside after : String) (limit : Int) (entries : List (String × Datum))
      (readings : Readings), Readings.ofEntries entries = .ok readings →
        isValid inside limit = true → isValid (aroundPart before inside after) limit = true →
          evaluate? inside limit readings.value? = none →
            evaluate? (aroundPart before inside after) limit readings.value? = none := by
  intro h
  have hread : Readings.ofEntries [("revenue", .float 1e308)] =
      .ok ⟨[⟨"revenue", "revenue", some 1e308⟩]⟩ := by
    have hfinite : finite? 1e308 = some 1e308 := if_pos (by decide +kernel)
    rw [← hfinite]
    generalize (1e308 : Float) = x
    rfl
  have hnone : evaluate? "revenue*10" 32 (Readings.mk [⟨"revenue", "revenue", some 1e308⟩]).value? =
      none := by
    rw [← Option.isNone_iff_eq_none]
    decide +kernel
  have hsome : (evaluate? (aroundPart "1/" "revenue*10" "") 32
      (Readings.mk [⟨"revenue", "revenue", some 1e308⟩]).value?).isSome = true := by
    decide +kernel
  rw [h "1/" "revenue*10" "" 32 _ _ hread (by decide +kernel) (by decide +kernel) hnone] at hsome
  cases hsome

end Scorecard.Expr
