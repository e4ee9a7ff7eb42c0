import Scorecard.Proofs.Decimal.Special
import Scorecard.Proofs.Expr.Evaluation

/-!
# Having no value in a part of an expression

An expression with a hole is filled with a part. If evaluation of the part stops at an absent KPI or
at a divisor of zero, so does evaluation of the whole. Where the part comes to a double that is not
finite, evaluation goes on: not-a-number stays in all results, and an infinity stays infinite or
becomes not-a-number, so the whole has no value either, except where the part stands in a divisor.
There an infinity may come back as a finite number, since a quotient by it is zero.
-/

namespace Scorecard.Expr

open Float.Model (UnpackedFloat)

/-- An expression with a hole in it. -/
inductive Hole where
  /-- The hole itself. -/
  | here
  /-- The hole is in an operand with a sign. -/
  | signed (sign : Sign) (hole : Hole)
  /-- The hole is in the left operand. -/
  | left (op : Operation) (hole : Hole) (right : Expr)
  /-- The hole is in the right operand. -/
  | right (op : Operation) (left : Expr) (hole : Hole)

/-- The expression with a part in the hole. -/
def Hole.fill : Hole → Expr → Expr
  | here, part => part
  | signed s hole, part => .signed s (hole.fill part)
  | left op hole r, part => .binary op (hole.fill part) r
  | right op l hole, part => .binary op l (hole.fill part)

/-- Whether the hole is in the divisor of a quotient. -/
def Hole.inDivisor : Hole → Bool
  | here => false
  | signed _ hole => hole.inDivisor
  | left _ hole _ => hole.inDivisor
  | right op _ hole => op = .div || hole.inDivisor

/-! ## Infinities and not-a-number in an operation -/

/-- An operation on unpacked doubles. -/
def Operation.unpacked : Operation → UnpackedFloat → UnpackedFloat → UnpackedFloat
  | add => .add .binary64
  | sub => .sub .binary64
  | mul => .mul .binary64
  | div => .div .binary64

theorem Operation.unpack_apply (op : Operation) (x y : Float) :
    (op.apply x y).toModel.unpack =
      (Float.Model.pack (op.unpacked x.toModel.unpack y.toModel.unpack)).unpack := by
  cases op <;> rfl

theorem Operation.unpacked_notANumber_left (op : Operation) (u : UnpackedFloat) :
    op.unpacked .notANumber u = .notANumber := by
  cases op <;> rfl

theorem Operation.unpacked_notANumber_right (op : Operation) (u : UnpackedFloat) :
    op.unpacked u .notANumber = .notANumber := by
  cases op <;> cases u <;> rfl

theorem Operation.unpacked_infinity_left (op : Operation) (s : UnpackedFloat.Sign)
    (u : UnpackedFloat) : (op.unpacked (.infinity s) u).isFinite = false := by
  cases u with
  | infinity t => cases op <;> cases s <;> cases t <;> rfl
  | notANumber | zero _ | finite _ _ _ _ => cases op <;> rfl

theorem Operation.unpacked_infinity_right {op : Operation} (hop : op ≠ .div)
    (s : UnpackedFloat.Sign) (u : UnpackedFloat) :
    (op.unpacked u (.infinity s)).isFinite = false := by
  cases u with
  | infinity t => cases op <;> cases s <;> cases t <;> rfl
  | notANumber | zero _ | finite _ _ _ _ => cases op <;> first | rfl | exact absurd rfl hop

/-- Not-a-number stays. -/
theorem Operation.isNaN_apply {op : Operation} {x y : Float} (h : x.isNaN = true ∨ y.isNaN = true) :
    (op.apply x y).isNaN = true := by
  rw [Decimal.isNaN_iff_unpack, unpack_apply]
  rcases h with h | h
  · rw [Decimal.isNaN_iff_unpack.1 h, unpacked_notANumber_left]
    rfl
  · rw [Decimal.isNaN_iff_unpack.1 h, unpacked_notANumber_right]
    rfl

theorem Operation.isFinite_apply_left {op : Operation} {x y : Float} (h : x.isFinite = false) :
    (op.apply x y).isFinite = false := by
  rcases Decimal.isFinite_eq_false_iff.1 h with hnan | hinf
  · exact Decimal.isFinite_eq_false_iff.2 (.inl (isNaN_apply (.inl hnan)))
  · obtain ⟨s, hs⟩ := Decimal.isInf_iff_unpack.1 hinf
    refine Decimal.isFinite_of_unpacked (op.unpack_apply x y) ?_
    rw [hs]
    exact op.unpacked_infinity_left s _

theorem Operation.isFinite_apply_right {op : Operation} (hop : op ≠ .div) {x y : Float}
    (h : y.isFinite = false) : (op.apply x y).isFinite = false := by
  rcases Decimal.isFinite_eq_false_iff.1 h with hnan | hinf
  · exact Decimal.isFinite_eq_false_iff.2 (.inl (isNaN_apply (.inr hnan)))
  · obtain ⟨s, hs⟩ := Decimal.isInf_iff_unpack.1 hinf
    refine Decimal.isFinite_of_unpacked (op.unpack_apply x y) ?_
    rw [hs]
    exact unpacked_infinity_right hop s _

theorem Sign.isNaN_apply {s : Sign} {x : Float} (h : x.isNaN = true) :
    (s.apply x).isNaN = true := by
  cases s with
  | plus => exact h
  | minus => exact Decimal.isNaN_neg h

theorem Sign.isFinite_apply {s : Sign} {x : Float} (h : x.isFinite = false) :
    (s.apply x).isFinite = false := by
  cases s with
  | plus => exact h
  | minus => exact (Decimal.isFinite_neg x).trans h

/-! ## The value of a filled expression -/

variable {lookup : String → Option Float} {part : Expr}

/-- Where evaluation of the part stops, so does evaluation of the whole. -/
theorem Hole.eval?_fill_eq_none (hole : Hole) (h : part.eval? lookup = none) :
    (hole.fill part).eval? lookup = none := by
  induction hole with
  | here => exact h
  | signed s hole ih => rw [fill, eval?, ih, Option.map_none]
  | left op hole r ih => rw [fill, eval?, ih, Option.bind_eq_bind, Option.bind_none]
  | right op l hole ih =>
    rw [fill, eval?, ih]
    cases l.eval? lookup <;> rfl

/-- The result of a filled expression is not-a-number if that of the part is. -/
theorem Hole.isNaN_fill (hole : Hole) {x y : Float} (hx : part.eval? lookup = some x)
    (hnan : x.isNaN = true) (hy : (hole.fill part).eval? lookup = some y) : y.isNaN = true := by
  induction hole generalizing y with
  | here =>
    obtain rfl := Option.some.inj (hx.symm.trans hy)
    exact hnan
  | signed s hole ih =>
    obtain ⟨z, hz, rfl⟩ := eval?_signed_eq_some_iff.1 hy
    exact Sign.isNaN_apply (ih hz)
  | left op hole r ih =>
    obtain ⟨a, b, ha, -, hresult⟩ := eval?_binary_eq_some_iff.1 hy
    obtain ⟨-, rfl⟩ := Operation.result?_eq_some_iff.1 hresult
    exact Operation.isNaN_apply (.inl (ih ha))
  | right op l hole ih =>
    obtain ⟨a, b, -, hb, hresult⟩ := eval?_binary_eq_some_iff.1 hy
    obtain ⟨-, rfl⟩ := Operation.result?_eq_some_iff.1 hresult
    exact Operation.isNaN_apply (.inr (ih hb))

/-- The result of a filled expression is not finite if that of the part is not, and the part is in
no divisor. -/
theorem Hole.isFinite_fill {hole : Hole} (hhole : hole.inDivisor = false) {x y : Float}
    (hx : part.eval? lookup = some x) (hinfinite : x.isFinite = false)
    (hy : (hole.fill part).eval? lookup = some y) : y.isFinite = false := by
  induction hole generalizing y with
  | here =>
    obtain rfl := Option.some.inj (hx.symm.trans hy)
    exact hinfinite
  | signed s hole ih =>
    obtain ⟨z, hz, rfl⟩ := eval?_signed_eq_some_iff.1 hy
    exact Sign.isFinite_apply (ih hhole hz)
  | left op hole r ih =>
    obtain ⟨a, b, ha, -, hresult⟩ := eval?_binary_eq_some_iff.1 hy
    obtain ⟨-, rfl⟩ := Operation.result?_eq_some_iff.1 hresult
    exact Operation.isFinite_apply_left (ih hhole ha)
  | right op l hole ih =>
    rw [inDivisor, Bool.or_eq_false_iff, decide_eq_false_iff_not] at hhole
    obtain ⟨a, b, -, hb, hresult⟩ := eval?_binary_eq_some_iff.1 hy
    obtain ⟨-, rfl⟩ := Operation.result?_eq_some_iff.1 hresult
    exact Operation.isFinite_apply_right hhole.1 (ih hhole.2 hb)

theorem value?_eq_none_iff {e : Expr} :
    e.value? lookup = none ↔ ∀ x, e.eval? lookup = some x → x.isFinite = false := by
  rw [value?, Option.bind_eq_none_iff]
  refine forall₂_congr fun x _ => ?_
  cases x.isFinite <;> simp

/-- An expression has no value if a part of it has none, unless the part comes to an infinity and
stands in a divisor. -/
theorem Hole.value?_fill_eq_none (hole : Hole) (h : part.value? lookup = none) :
    (hole.fill part).value? lookup = none ∨
      hole.inDivisor = true ∧ ∃ x, part.eval? lookup = some x ∧ x.isInf = true := by
  cases hx : part.eval? lookup with
  | none =>
    refine .inl (value?_eq_none_iff.2 fun y hy => ?_)
    rw [hole.eval?_fill_eq_none hx] at hy
    cases hy
  | some x =>
    have hinfinite : x.isFinite = false := value?_eq_none_iff.1 h x hx
    rcases Decimal.isFinite_eq_false_iff.1 hinfinite with hnan | hinf
    · refine .inl (value?_eq_none_iff.2 fun y hy => ?_)
      exact Decimal.isFinite_eq_false_iff.2 (.inl (hole.isNaN_fill hx hnan hy))
    · cases hhole : hole.inDivisor with
      | true => exact .inr ⟨rfl, x, rfl, hinf⟩
      | false => exact .inl (value?_eq_none_iff.2 fun y hy => isFinite_fill hhole hx hinfinite hy)

end Scorecard.Expr
