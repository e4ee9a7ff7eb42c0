import Scorecard.Expr.Parser
import Scorecard.Readings

/-!
# When an expression has no value

The value of an expression is the double that IEEE arithmetic gives, where a quotient by zero is
infinite or not-a-number like any other. There are four reasons for it to have none, and no others:
the text is no expression, one of the KPIs in it has no number, one of the divisors in it is zero,
or the double is not finite. It does not matter where in the expression the KPI or the divisor
stands, nor which of them is met first.
-/

namespace Scorecard

open Text (trim)

namespace Expr

/-- The result of an operation in IEEE arithmetic. -/
def Operation.apply : Operation → Float → Float → Float
  | add, x, y => x + y
  | sub, x, y => x - y
  | mul, x, y => x * y
  | div, x, y => x / y

/-- The double of an expression in IEEE arithmetic; `figure` gives the number of each KPI. -/
def double (figure : String → Float) : Expr → Float
  | number x => x
  | kpi id => figure id
  | signed s e => s.apply (e.double figure)
  | binary op l r => op.apply (l.double figure) (r.double figure)

/-- The divisors of the quotients in an expression. -/
def divisors : Expr → List Expr
  | number _ | kpi _ => []
  | signed _ e => e.divisors
  | binary op l r => l.divisors ++ r.divisors ++ if op = .div then [r] else []

/-- The numbers that a look-up finds, and zero where it finds none. -/
def figures (lookup : String → Option Float) (id : String) : Float :=
  (lookup id).getD 0.0

/-- An expression in which each KPI has a number and no divisor is zero, of either sign. -/
structure Defined (lookup : String → Option Float) (e : Expr) : Prop where
  /-- Each KPI has a number. -/
  present : ∀ id ∈ e.ids, lookup id ≠ none
  /-- No divisor is zero. -/
  divides : ∀ d ∈ e.divisors, (d.double (figures lookup) == 0.0) = false

/-! ## Evaluation -/

variable {lookup : String → Option Float}

theorem Operation.result?_eq_some_iff {op : Operation} {x y z : Float} :
    op.result? x y = some z ↔ (op = .div → (y == 0.0) = false) ∧ op.apply x y = z := by
  cases op with
  | add | sub | mul => simp [result?, apply]
  | div => simp [result?, apply]

theorem eval?_signed_eq_some_iff {s : Sign} {e : Expr} {x : Float} :
    (signed s e).eval? lookup = some x ↔ ∃ y, e.eval? lookup = some y ∧ s.apply y = x :=
  Option.map_eq_some_iff

theorem eval?_binary_eq_some_iff {op : Operation} {l r : Expr} {z : Float} :
    (binary op l r).eval? lookup = some z ↔
      ∃ x y, l.eval? lookup = some x ∧ r.eval? lookup = some y ∧ op.result? x y = some z := by
  simp [eval?, Option.bind_eq_some_iff]

theorem defined_signed {s : Sign} {e : Expr} :
    (signed s e).Defined lookup ↔ e.Defined lookup :=
  ⟨fun h => ⟨h.present, h.divides⟩, fun h => ⟨h.present, h.divides⟩⟩

theorem defined_binary {op : Operation} {l r : Expr} :
    (binary op l r).Defined lookup ↔ l.Defined lookup ∧ r.Defined lookup ∧
      (op = .div → (r.double (figures lookup) == 0.0) = false) := by
  constructor
  · rintro ⟨hpresent, hdivides⟩
    simp only [ids, divisors, List.mem_append, or_imp, forall_and] at hpresent hdivides
    refine ⟨⟨hpresent.1, hdivides.1.1⟩, ⟨hpresent.2, hdivides.1.2⟩, fun hop => ?_⟩
    exact hdivides.2 r (by rw [if_pos hop]; exact List.mem_singleton_self r)
  · rintro ⟨hl, hr, hop⟩
    refine ⟨List.forall_mem_append.2 ⟨hl.present, hr.present⟩, ?_⟩
    refine List.forall_mem_append.2 ⟨List.forall_mem_append.2 ⟨hl.divides, hr.divides⟩, ?_⟩
    split
    · rename_i hdiv
      exact List.forall_mem_singleton.2 (hop hdiv)
    · exact fun d hd => absurd hd List.not_mem_nil

/-- Evaluation gives the double of an expression, if that is defined. -/
theorem eval?_eq_some_iff {e : Expr} {x : Float} :
    e.eval? lookup = some x ↔ e.Defined lookup ∧ e.double (figures lookup) = x := by
  induction e generalizing x with
  | number y =>
    have hdefined : (number y).Defined lookup := ⟨by simp [ids], by simp [divisors]⟩
    simp [eval?, double, hdefined]
  | kpi id =>
    have hdefined : (kpi id).Defined lookup ↔ lookup id ≠ none :=
      ⟨fun h => h.present id (List.mem_singleton_self id),
        fun h => ⟨List.forall_mem_singleton.2 h, by simp [divisors]⟩⟩
    rw [hdefined, eval?, double, figures]
    cases lookup id with
    | none => simp
    | some y => simp
  | signed s e ih =>
    rw [eval?_signed_eq_some_iff, defined_signed, double]
    simp only [ih]
    constructor
    · rintro ⟨y, ⟨hdefined, rfl⟩, hx⟩
      exact ⟨hdefined, hx⟩
    · rintro ⟨hdefined, hx⟩
      exact ⟨_, ⟨hdefined, rfl⟩, hx⟩
  | binary op l r ihl ihr =>
    simp only [eval?_binary_eq_some_iff, ihl, ihr, defined_binary, Operation.result?_eq_some_iff]
    constructor
    · rintro ⟨y, z, ⟨hl, rfl⟩, ⟨hr, rfl⟩, hop, hx⟩
      exact ⟨⟨hl, hr, hop⟩, hx⟩
    · rintro ⟨⟨hl, hr, hop⟩, hx⟩
      exact ⟨_, _, ⟨hl, rfl⟩, ⟨hr, rfl⟩, hop, hx⟩

theorem value?_eq_some_iff {e : Expr} {x : Float} :
    e.value? lookup = some x ↔
      e.Defined lookup ∧ x.isFinite = true ∧ e.double (figures lookup) = x := by
  rw [value?, Option.bind_eq_some_iff]
  constructor
  · rintro ⟨y, hy, hx⟩
    obtain ⟨hdefined, hdouble⟩ := eval?_eq_some_iff.1 hy
    split at hx
    · rename_i hfinite
      obtain rfl := Option.some.inj hx
      exact ⟨hdefined, hfinite, hdouble⟩
    · cases hx
  · rintro ⟨hdefined, hfinite, hdouble⟩
    exact ⟨x, eval?_eq_some_iff.2 ⟨hdefined, hdouble⟩, if_pos hfinite⟩

/-! ## The value of a text -/

theorem evaluate?_eq_some_iff {s : String} {limit : Int} {x : Float} :
    evaluate? s limit lookup = some x ↔
      ∃ e, parse (trim s) limit = .ok e ∧ e.value? lookup = some x := by
  rw [evaluate?]
  cases parse (trim s) limit with
  | error err => simp
  | ok e => simp

end Expr

end Scorecard
