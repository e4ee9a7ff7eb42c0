import Scorecard.Context
import Scorecard.Proofs.Expr.Parser
import Scorecard.Proofs.Readings

/-!
# Identifiers in other letter case

An expression whose identifiers are spelled in other letter case has the same tree up to the
spelling of its KPIs, and a KPI is addressed in any letter case, so the value is the same.
-/

namespace Scorecard

open Text (lower trim)

namespace Expr

/-- Two tokens that differ at most in the spelling of an identifier. -/
inductive Token.Respelled : Token → Token → Prop where
  /-- Symbols stay. -/
  | symbol (s : Symbol) : Respelled (.symbol s) (.symbol s)
  /-- Literals stay. -/
  | number (literal : String) : Respelled (.number literal) (.number literal)
  /-- An identifier keeps its lower-case form. -/
  | ident {a b : String} (h : lower a = lower b) : Respelled (.ident a) (.ident b)

/-- Two trees that differ at most in the spelling of KPIs. -/
inductive Respelled : Expr → Expr → Prop where
  /-- Constants stay. -/
  | number (x : Float) : Respelled (.number x) (.number x)
  /-- A KPI keeps the lower-case form of its id. -/
  | kpi {a b : String} (h : lower a = lower b) : Respelled (.kpi a) (.kpi b)
  /-- Signs stay. -/
  | signed (s : Sign) {e e' : Expr} (h : Respelled e e') : Respelled (.signed s e) (.signed s e')
  /-- Operations stay. -/
  | binary (op : Operation) {l l' r r' : Expr} (hl : Respelled l l') (hr : Respelled r r') :
    Respelled (.binary op l r) (.binary op l' r')

/-- Two texts that differ at most in the spelling of identifiers and in white space. -/
def RespelledText (a b : String) : Prop :=
  ∃ ls ls', lex (trim a) = .ok ls ∧ lex (trim b) = .ok ls' ∧
    List.Forall₂ Token.Respelled (tokensOf ls) (tokensOf ls')

theorem Token.Respelled.symm {s t : Token} (h : s.Respelled t) : t.Respelled s := by
  cases h with
  | symbol s => exact .symbol s
  | number literal => exact .number literal
  | ident h => exact .ident h.symm

theorem RespelledText.symm {a b : String} (h : RespelledText a b) : RespelledText b a := by
  obtain ⟨ls, ls', hls, hls', htokens⟩ := h
  exact ⟨ls', ls, hls', hls, List.Forall₂.flip (htokens.imp fun _ _ h => h.symm)⟩

/-! ## Trees -/

/-- A derivation of two phrases with an operation between them. -/
theorem Spells.respelled_binary {p q : Phrase} {d : Nat} {ts us : List Placed} {l r : Expr}
    {op : Operation} {tokens : List Token}
    (hmore : ∀ {ts us l r}, Spells p d ts l → Spells q d us r →
      Spells p d (ts ++ ⟨.symbol op.symbol, d⟩ :: us) (.binary op l r))
    (ihl : ∀ tokens, List.Forall₂ Token.Respelled (Placed.tokens ts) tokens →
      ∃ ts' l', Spells p d ts' l' ∧ Placed.tokens ts' = tokens ∧ l.Respelled l' ∧
        ∀ bound, Fits bound ts → Fits bound ts')
    (ihr : ∀ tokens, List.Forall₂ Token.Respelled (Placed.tokens us) tokens →
      ∃ us' r', Spells q d us' r' ∧ Placed.tokens us' = tokens ∧ r.Respelled r' ∧
        ∀ bound, Fits bound us → Fits bound us')
    (h : List.Forall₂ Token.Respelled
      (Placed.tokens (ts ++ ⟨.symbol op.symbol, d⟩ :: us)) tokens) :
    ∃ ts' e', Spells p d ts' e' ∧ Placed.tokens ts' = tokens ∧
      (Expr.binary op l r).Respelled e' ∧
      ∀ bound, Fits bound (ts ++ ⟨.symbol op.symbol, d⟩ :: us) → Fits bound ts' := by
  rw [Placed.tokens_append] at h
  obtain ⟨left, rest, rfl, hleft, hrest⟩ := forall₂_append_left h
  cases hrest with
  | cons hop hright =>
    cases hop with
    | symbol =>
      obtain ⟨ts', l', hl, hts, hll, hfitl⟩ := ihl left hleft
      obtain ⟨us', r', hr, hus, hrr, hfitr⟩ := ihr _ hright
      refine ⟨_, _, hmore hl hr, ?_, .binary op hll hrr, fun bound hfit => ?_⟩
      · rw [Placed.tokens_append, Placed.tokens_cons, hts, hus]
      · rw [fits_append, fits_cons] at hfit ⊢
        exact ⟨hfitl bound hfit.1, hfit.2.1, hfitr bound hfit.2.2⟩

/-- The derivation of re-spelled tokens. -/
theorem Spells.respelled {p : Phrase} {d : Nat} {ts : List Placed} {e : Expr}
    (h : Spells p d ts e) : ∀ tokens, List.Forall₂ Token.Respelled (Placed.tokens ts) tokens →
      ∃ ts' e', Spells p d ts' e' ∧ Placed.tokens ts' = tokens ∧ e.Respelled e' ∧
        ∀ bound, Fits bound ts → Fits bound ts' := by
  induction h with
  | oneTerm _ ih =>
    intro tokens htokens
    obtain ⟨ts', e', hts', hrest⟩ := ih tokens htokens
    exact ⟨ts', e', .oneTerm hts', hrest⟩
  | moreTerms op hop _ _ ihl ihr =>
    intro tokens htokens
    exact respelled_binary (fun hl hr => .moreTerms op hop hl hr) ihl ihr htokens
  | oneUnary _ ih =>
    intro tokens htokens
    obtain ⟨ts', e', hts', hrest⟩ := ih tokens htokens
    exact ⟨ts', e', .oneUnary hts', hrest⟩
  | moreUnaries op hop _ _ ihl ihr =>
    intro tokens htokens
    exact respelled_binary (fun hl hr => .moreUnaries op hop hl hr) ihl ihr htokens
  | sign s _ ih =>
    rintro _ (_ | ⟨⟨⟩, htokens⟩)
    obtain ⟨ts', e', hts', rfl, hee, hfit⟩ := ih _ htokens
    refine ⟨_, _, .sign s hts', rfl, .signed s hee, fun bound hbound => ?_⟩
    rw [fits_cons] at hbound ⊢
    exact ⟨hbound.1, hfit bound hbound.2⟩
  | unsigned _ ih =>
    intro tokens htokens
    obtain ⟨ts', e', hts', hrest⟩ := ih tokens htokens
    exact ⟨ts', e', .unsigned hts', hrest⟩
  | literal text =>
    rintro _ (_ | ⟨⟨⟩, ⟨⟩⟩)
    exact ⟨_, _, .literal text, rfl, .number _, fun _ h => h⟩
  | ident name =>
    rintro _ (_ | ⟨⟨⟩, ⟨⟩⟩)
    exact ⟨_, _, .ident _, rfl, .kpi ‹_›, fun _ h => by simpa using h⟩
  | parens _ ih =>
    rintro _ (_ | ⟨⟨⟩, htokens⟩)
    rw [List.map_append] at htokens
    obtain ⟨inside, last, rfl, hinside, hlast⟩ := forall₂_append_left htokens
    obtain ⟨ts', e', hts', rfl, hee, hfit⟩ := ih inside hinside
    rcases hlast with _ | ⟨⟨⟩, ⟨⟩⟩
    refine ⟨_, _, .parens hts', ?_, hee, fun bound hbound => ?_⟩
    · simp [Placed.tokens]
    · simp only [fits_cons, fits_append] at hbound ⊢
      exact ⟨hbound.1, hfit bound hbound.2.1, hbound.2.2⟩

/-- A text whose identifiers are re-spelled is parsed into a re-spelled tree. -/
theorem RespelledText.parse {a b : String} (h : RespelledText a b) {limit : Int} {e : Expr}
    (he : parse (trim a) limit = .ok e) :
    ∃ e', Expr.parse (trim b) limit = .ok e' ∧ e.Respelled e' := by
  obtain ⟨ls, ls', hls, hls', htokens⟩ := h
  obtain ⟨us, hus, hlength, ts, hts, heq, hfit⟩ := parse_eq_ok_iff.1 he
  obtain rfl := Except.ok.inj (hls.symm.trans hus)
  rw [← heq] at htokens
  obtain ⟨ts', e', hts', heq', hee, hfit'⟩ := hts.respelled _ htokens
  refine ⟨e', parse_eq_ok_iff.2 ⟨ls', hls', ?_, ts', hts', heq', hfit' _ hfit⟩, hee⟩
  have hcount := htokens.length_eq
  rw [heq, tokensOf, tokensOf, List.length_map, List.length_map] at hcount
  rwa [← hcount]

/-! ## Values -/

/-- Trees have the same value if the look-up does not tell their KPIs apart. -/
theorem Respelled.eval?_eq {e e' : Expr} (h : e.Respelled e') {lookup : String → Option Float}
    (hlookup : ∀ a b, lower a = lower b → lookup a = lookup b) :
    e.eval? lookup = e'.eval? lookup := by
  induction h with
  | number x => rfl
  | kpi h => exact hlookup _ _ h
  | signed s _ ih => rw [eval?, eval?, ih]
  | binary op _ _ ihl ihr => rw [eval?, eval?, ihl, ihr]

/-- An expression has the same value if its identifiers are re-spelled. -/
theorem RespelledText.evaluate?_eq {a b : String} (h : RespelledText a b) (limit : Int)
    {lookup : String → Option Float} (hlookup : ∀ a b, lower a = lower b → lookup a = lookup b) :
    evaluate? a limit lookup = evaluate? b limit lookup := by
  unfold evaluate?
  cases ha : Expr.parse (trim a) limit with
  | ok e =>
    obtain ⟨e', hb, hee⟩ := h.parse ha
    rw [hb]
    dsimp only
    rw [value?, value?, hee.eval?_eq hlookup]
  | error err =>
    cases hb : Expr.parse (trim b) limit with
    | error err' => rfl
    | ok e' =>
      obtain ⟨e, ha', -⟩ := h.symm.parse hb
      rw [ha] at ha'
      cases ha'

end Expr

theorem Context.evaluate?_respelled (ctx : Context) {a b : String} (h : Expr.RespelledText a b) :
    ctx.evaluate? a = ctx.evaluate? b :=
  h.evaluate?_eq _ fun a b hab => by
    rw [Readings.value?, Readings.value?, ctx.readings.find?_respelled hab]

end Scorecard
