import Scorecard.Proofs.Decimal.Scientific
import Scorecard.Proofs.Expr.Decomposition
import Scorecard.Proofs.Expr.Parser

/-!
# The operands of an expression

The leaves of a parsed tree are the identifiers and literals of the text, in the order in which they
stand there. An identifier becomes the KPI of its name, and a literal the double of its decimal.
-/

namespace Scorecard.Expr

open Decimal (AllDigits IsDoubleOf natOfDigits nearestDouble takeSign unsigned?)

/-! ## The double of a literal -/

/-- The number that a literal denotes: its digits as a whole number, divided by ten for each digit
after the point. -/
def literalNumber (literal : String) : ℚ :=
  let digits := literal.toList.filter Char.isDigit
  let fraction := (literal.toList.dropWhile (· != '.')).tail
  natOfDigits digits / 10 ^ fraction.length

/-- A literal is digits, or digits around a point. -/
theorem exists_digits_of_isNumeral {cs : List Char} (h : isNumeral cs = true) :
    AllDigits cs ∧ cs ≠ [] ∨ ∃ whole fraction, cs = whole ++ '.' :: fraction ∧ AllDigits whole ∧
      AllDigits fraction ∧ whole ++ fraction ≠ [] := by
  simp only [isNumeral, isLiteral, Bool.and_eq_true, List.all_eq_true, List.any_eq_true,
    decide_eq_true_eq] at h
  obtain ⟨hchars, hpoints, d, hd, hdigit⟩ := h
  have hdigits {ds : List Char} (hds : ∀ c ∈ ds, c ∈ cs) (hpoint : '.' ∉ ds) : AllDigits ds := by
    intro c hc
    have hchar := hchars c (hds c hc)
    rw [isLiteralChar, Bool.or_eq_true, decide_eq_true_eq] at hchar
    refine hchar.resolve_right ?_
    rintro rfl
    exact hpoint hc
  by_cases hpoint : '.' ∈ cs
  · obtain ⟨whole, fraction, rfl⟩ := List.append_of_mem hpoint
    rw [List.count_append, List.count_cons_self] at hpoints
    have hwhole : '.' ∉ whole := List.count_eq_zero.1 (by omega)
    have hfraction : '.' ∉ fraction := List.count_eq_zero.1 (by omega)
    refine .inr ⟨whole, fraction, rfl, hdigits (by simp +contextual) hwhole,
      hdigits (by simp +contextual) hfraction, ?_⟩
    intro hnil
    obtain ⟨rfl, rfl⟩ := List.append_eq_nil_iff.1 hnil
    obtain rfl := List.mem_singleton.1 hd
    cases hdigit
  · exact .inl ⟨hdigits (fun _ hc => hc) hpoint, List.ne_nil_of_mem hd⟩

theorem takeSign_of_isNumeral {cs : List Char} (h : isNumeral cs = true) :
    takeSign cs = (false, cs) := by
  rw [isNumeral, Bool.and_eq_true, List.all_eq_true] at h
  refine Decimal.takeSign_of_head fun c hc => ?_
  have hchar := h.1 c (List.mem_of_mem_head? hc)
  constructor <;> rintro rfl <;> cases hchar

theorem bne_point_of_allDigits {cs : List Char} (h : AllDigits cs) :
    ∀ c ∈ cs, (c != '.') = true := by
  intro c hc
  rw [bne_iff_ne]
  rintro rfl
  exact h.notMem rfl hc

theorem literalNumber_of_allDigits {literal : String} (h : AllDigits literal.toList) :
    literalNumber literal = natOfDigits literal.toList := by
  rw [literalNumber, List.filter_eq_self.2 h,
    List.dropWhile_eq_nil_iff.2 (bne_point_of_allDigits h)]
  exact div_one _

theorem literalNumber_of_point {literal : String} {whole fraction : List Char}
    (h : literal.toList = whole ++ '.' :: fraction) (hwhole : AllDigits whole)
    (hfraction : AllDigits fraction) :
    literalNumber literal = natOfDigits (whole ++ fraction) / 10 ^ fraction.length := by
  have hdigits : (whole ++ '.' :: fraction).filter Char.isDigit = whole ++ fraction := by
    rw [List.filter_append, List.filter_cons_of_neg (by decide), List.filter_eq_self.2 hwhole,
      List.filter_eq_self.2 hfraction]
  have hpoint : (whole ++ '.' :: fraction).dropWhile (· != '.') = '.' :: fraction := by
    rw [List.dropWhile_append_of_pos (bne_point_of_allDigits hwhole),
      List.dropWhile_cons_of_neg (by decide)]
  rw [literalNumber, h, hdigits, hpoint, List.tail_cons]

/-- A literal is read as its number. -/
theorem unsigned?_of_isNumeral {literal : String} (h : isNumeral literal.toList = true) :
    ∃ digits places : Nat, unsigned? literal.toList = some (digits, -(places : Int)) ∧
      literalNumber literal = digits / 10 ^ places := by
  rcases exists_digits_of_isNumeral h with ⟨hdigits, hne⟩ |
    ⟨whole, fraction, heq, hwhole, hfraction, hne⟩
  · have hread := Decimal.unsigned?_pointed hdigits hne (List.forall_mem_nil _)
    rw [Decimal.pointed, List.append_nil] at hread
    refine ⟨_, 0, hread, ?_⟩
    rw [literalNumber_of_allDigits hdigits, pow_zero, div_one]
  · exact ⟨_, _, heq ▸ Decimal.unsigned?_point hwhole hfraction hne,
      literalNumber_of_point heq hwhole hfraction⟩

/-- A literal becomes the double of its number. -/
theorem literalValue_isDoubleOf {literal : String} (h : isNumeral literal.toList = true) :
    IsDoubleOf (literalNumber literal) (literalValue literal) := by
  obtain ⟨digits, places, hread, hnumber⟩ := unsigned?_of_isNumeral h
  have hvalue : literalValue literal = nearestDouble digits (-(places : Int)) := by
    simp [literalValue, Decimal.numeral?, takeSign_of_isNumeral h, hread, Decimal.Numeral.toFloat,
      Decimal.signed]
  have hpower : (digits : ℚ) / 10 ^ places = digits * 10 ^ (-(places : Int)) := by
    rw [zpow_neg, zpow_natCast, div_eq_mul_inv]
  rw [hvalue, hnumber, hpower]
  exact Decimal.isDoubleOf_nearestDouble digits (-(places : Int))

/-! ## The leaves of a tree -/

/-- The leaves of a tree from left to right. -/
def leaves : Expr → List Expr
  | number x => [.number x]
  | kpi id => [.kpi id]
  | signed _ e => e.leaves
  | binary _ l r => l.leaves ++ r.leaves

/-- The leaf that a token becomes; operators and parentheses become none. -/
def Token.leaf? : Token → Option Expr
  | symbol _ => none
  | ident name => some (.kpi name)
  | number literal => some (.number (literalValue literal))

/-- The KPIs of a tree are those at its leaves. -/
theorem mem_ids_iff {e : Expr} {name : String} : name ∈ e.ids ↔ .kpi name ∈ e.leaves := by
  induction e with
  | number x => simp [ids, leaves]
  | kpi id => simp [ids, leaves]
  | signed s e ih => exact ih
  | binary op l r ihl ihr => rw [ids, leaves, List.mem_append, List.mem_append, ihl, ihr]

theorem kpi_mem_filterMap_leaf? {ts : List Token} {name : String} :
    .kpi name ∈ ts.filterMap Token.leaf? ↔ .ident name ∈ ts := by
  rw [List.mem_filterMap]
  constructor
  · rintro ⟨t, ht, hleaf⟩
    cases t with
    | symbol s => cases hleaf
    | ident id =>
      cases hleaf
      exact ht
    | number literal => cases hleaf
  · exact fun h => ⟨_, h, rfl⟩

/-- The leaves of a derivation are its identifiers and literals. Every rule puts the tokens of its
parts one after the other, as the tree does with the leaves, and adds nothing but symbols. -/
theorem Spells.leaves_eq {p : Phrase} {d : Nat} {ts : List Placed} {e : Expr}
    (h : Spells p d ts e) : e.leaves = (Placed.tokens ts).filterMap Token.leaf? := by
  induction h with
  | oneTerm _ ih | oneUnary _ ih | unsigned _ ih => exact ih
  | moreTerms op _ _ _ ihl ihr | moreUnaries op _ _ _ ihl ihr =>
    rw [leaves, ihl, ihr, Placed.tokens_append, Placed.tokens_cons, List.filterMap_append,
      List.filterMap_cons_none rfl]
  | sign s _ ih =>
    rw [leaves, ih, Placed.tokens_cons, List.filterMap_cons_none rfl]
  | literal text | ident name => rfl
  | parens _ ih =>
    rw [ih, Placed.tokens_cons, Placed.tokens_append, List.filterMap_cons_none rfl,
      List.filterMap_append]
    exact (List.append_nil _).symm

/-- Parsing loses, invents and reorders no operand: the leaves of the tree from left to right are
the identifiers and literals of the text in order, each identifier by its name and each literal by
its double. So the KPIs of the tree are exactly the identifiers of the text. -/
theorem parse_keeps_operands {s : String} {limit : Int} {e : Expr} (h : parse s limit = .ok e) :
    ∃ ls, lex s = .ok ls ∧ e.leaves = (tokensOf ls).filterMap Token.leaf? ∧
      (∀ literal, .number literal ∈ tokensOf ls →
        IsDoubleOf (literalNumber literal) (literalValue literal)) ∧
      ∀ name, name ∈ e.ids ↔ .ident name ∈ tokensOf ls := by
  obtain ⟨ls, hlex, -, ts, hts, htokens, -⟩ := parse_eq_ok_iff.1 h
  have hleaves : e.leaves = (tokensOf ls).filterMap Token.leaf? := by
    rw [← htokens]
    exact hts.leaves_eq
  refine ⟨ls, hlex, hleaves, fun literal hmem => ?_, fun name => ?_⟩
  · exact literalValue_isDoubleOf (wellFormed_of_lex hlex _ hmem)
  · rw [mem_ids_iff, hleaves, kpi_mem_filterMap_leaf?]

/-- A sum with a sign and parentheses in it, and a KPI that stands there twice. -/
theorem parse_keeps_operands_nested :
    ∃ e, parse "-(Jobs - .5) * jobs / 10 + Jobs" 2 = .ok e ∧
      e.leaves = [.kpi "Jobs", .number (literalValue ".5"), .kpi "jobs",
        .number (literalValue "10"), .kpi "Jobs"] ∧
      IsDoubleOf (1 / 2) (literalValue ".5") ∧ IsDoubleOf 10 (literalValue "10") ∧
      ∀ name, name ∈ e.ids ↔ name = "Jobs" ∨ name = "jobs" := by
  obtain ⟨e, he⟩ := exists_eq_ok
    (by decide +kernel : (parse "-(Jobs - .5) * jobs / 10 + Jobs" 2).isOk = true)
  obtain ⟨ls, hlex, hleaves, hdoubles, hids⟩ := parse_keeps_operands he
  have hfound : (lex "-(Jobs - .5) * jobs / 10 + Jobs").toOption.map tokensOf =
      some [.symbol .minus, .symbol .opening, .ident "Jobs", .symbol .minus, .number ".5",
        .symbol .closing, .symbol .times, .ident "jobs", .symbol .slash, .number "10",
        .symbol .plus, .ident "Jobs"] := by
    decide +kernel
  rw [hlex] at hfound
  have htokens := Option.some.inj hfound
  rw [htokens] at hleaves hdoubles hids
  have hhalf : literalNumber ".5" = 1 / 2 := by decide +kernel
  have hten : literalNumber "10" = 10 := by decide +kernel
  refine ⟨e, he, hleaves, ?_, ?_, fun name => ?_⟩
  · exact hhalf ▸ hdoubles ".5" (by decide)
  · exact hten ▸ hdoubles "10" (by decide)
  · rw [hids]
    simp only [List.mem_cons, List.not_mem_nil, reduceCtorEq, Token.ident.injEq, or_false, false_or]
    tauto

end Scorecard.Expr
