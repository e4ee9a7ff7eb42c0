import Scorecard.Proofs.Check.Standard
import Scorecard.Proofs.Decimal.Arithmetic
import Scorecard.Proofs.Expr.Evaluation

/-!
# The figures of an outcome

The two figures of an outcome are values of expressions or bounds, so they are finite. The variance
is computed from them, and a difference of two finite doubles may be out of range: it is finite if
the distance of the two figures is in range, and infinite otherwise. That it is taken relative to
the larger magnitude in some checks does not help, since it is divided only after the difference.
-/

namespace Scorecard

/-- Two figures that are finite where they are there, and a variance that is finite if their
distance is in range and infinite otherwise. -/
structure FiguresInRange (actual expected variance : Option Float) : Prop where
  /-- The figure that was found is finite. -/
  actual_finite : ∀ x, actual = some x → x.isFinite = true
  /-- The figure that was wanted is finite. -/
  expected_finite : ∀ y, expected = some y → y.isFinite = true
  /-- A variance is that of two figures, and it is finite exactly if their distance is in range. -/
  variance_finite : ∀ v, variance = some v →
    ∃ x y, actual = some x ∧ expected = some y ∧ Decimal.FiniteByDistance v x y

/-- An outcome with figures in range. -/
def Outcome.InRange (outcome : Outcome) : Prop :=
  FiguresInRange outcome.actual outcome.expected outcome.variance

theorem relativeVariance_finiteByDistance {x y : Float} (hx : x.isFinite = true)
    (hy : y.isFinite = true) : Decimal.FiniteByDistance (relativeVariance x y) x y := by
  unfold relativeVariance
  dsimp only
  generalize hlarger : (if x.abs < y.abs then y.abs else x.abs) = larger
  have hfinite : larger.isFinite = true := by
    rw [← hlarger]
    split
    · rwa [Decimal.abs_isFinite]
    · rwa [Decimal.abs_isFinite]
  have hdivisor : Decimal.AtLeastOne (if larger < 1.0 then 1.0 else larger) := by
    split
    · exact Decimal.atLeastOne_of_not_lt (by decide) (by decide)
    · rename_i hlt
      exact Decimal.atLeastOne_of_not_lt hfinite hlt
  refine (Decimal.sub_finiteByDistance hx hy).imp (fun h => ?_) fun h => ?_
  · exact Decimal.div_isFinite ((Decimal.abs_isFinite _).trans h) hdivisor
  · exact Decimal.div_isInf (Decimal.abs_isInf h) hdivisor

theorem Context.evaluate?_isFinite {ctx : Context} {expr : String} {x : Float}
    (h : ctx.evaluate? expr = some x) : x.isFinite = true := by
  obtain ⟨e, -, hvalue⟩ := Expr.evaluate?_eq_some_iff.1 h
  exact (Expr.value?_eq_some_iff.1 hvalue).2.1

section InRange

variable {actual expected : Option Float}

theorem FiguresInRange.without_variance (hactual : ∀ x, actual = some x → x.isFinite = true)
    (hexpected : ∀ y, expected = some y → y.isFinite = true) :
    FiguresInRange actual expected none :=
  ⟨hactual, hexpected, fun _ h => by cases h⟩

theorem FiguresInRange.of_some {x y v : Float} (hx : x.isFinite = true) (hy : y.isFinite = true)
    (hv : Decimal.FiniteByDistance v x y) : FiguresInRange (some x) (some y) (some v) where
  actual_finite := fun _ h => Option.some.inj h ▸ hx
  expected_finite := fun _ h => Option.some.inj h ▸ hy
  variance_finite := fun _ h => ⟨x, y, rfl, rfl, Option.some.inj h ▸ hv⟩

end InRange

namespace Check

variable {ctx : Context} {rule : ValidationRule} {arguments : List String} {outcome : Outcome}

theorem ofComparison_inRange {compare : ValidationRule → Float → Float → Outcome}
    (hcompare : ∀ {left right}, left.isFinite = true → right.isFinite = true →
      (compare rule left right).InRange)
    (h : ofComparison compare ctx rule arguments = .ok outcome) : outcome.InRange := by
  unfold ofComparison at h
  split at h
  · rename_i leftText rightText
    split at h
    · rename_i left right hleft hright
      obtain rfl := Except.ok.inj h
      exact hcompare (Context.evaluate?_isFinite hleft) (Context.evaluate?_isFinite hright)
    · obtain rfl := Except.ok.inj h
      exact .without_variance (fun _ => Context.evaluate?_isFinite)
        fun _ => Context.evaluate?_isFinite
  · cases h

theorem ofBound_inRange {within : Float → Float → Bool}
    (h : ofBound within ctx rule arguments = .ok outcome) : outcome.InRange := by
  unfold ofBound at h
  split at h
  · split at h
    · rename_i value bound hvalue hbound
      obtain rfl := Except.ok.inj h
      have hvalue := Context.evaluate?_isFinite hvalue
      have hbound := textNumber?_isFinite hbound
      exact .of_some hvalue hbound (Decimal.sub_finiteByDistance hvalue hbound)
    · cases h
    · obtain rfl := Except.ok.inj h
      exact .without_variance (fun _ hnone => by cases hnone) fun _ => textNumber?_isFinite
  · cases h

theorem between_inRange {value low high : Float} (hvalue : value.isFinite = true)
    (hlow : low.isFinite = true) (hhigh : high.isFinite = true) :
    (between value low high).InRange := by
  unfold between
  split
  · exact .of_some hvalue hlow (Decimal.sub_finiteByDistance hlow hvalue).symm
  · split
    · exact .of_some hvalue hhigh (Decimal.sub_finiteByDistance hvalue hhigh)
    · exact .without_variance (fun _ h => Option.some.inj h ▸ hvalue) fun _ h => by cases h

theorem inRange_inRange (h : inRange ctx rule arguments = .ok outcome) : outcome.InRange := by
  unfold inRange at h
  split at h
  · split at h
    · obtain rfl := Except.ok.inj h
      exact .without_variance (fun _ hnone => by cases hnone) fun _ hnone => by cases hnone
    · rename_i value low high hvalue hlow hhigh
      obtain rfl := Except.ok.inj h
      exact between_inRange (Context.evaluate?_isFinite hvalue) (textNumber?_isFinite hlow)
        (textNumber?_isFinite hhigh)
    · cases h
  · cases h

theorem required_inRange (h : required ctx rule arguments = .ok outcome) : outcome.InRange := by
  unfold required at h
  split at h
  · obtain rfl := Except.ok.inj h
    exact .without_variance (fun _ => Context.evaluate?_isFinite)
      fun _ => Context.evaluate?_isFinite
  · cases h

theorem ordered_inRange (holds : Float → Float → Bool) {left right : Float}
    (hleft : left.isFinite = true) (hright : right.isFinite = true) :
    (ordered holds rule left right).InRange :=
  .of_some hleft hright (Decimal.sub_finiteByDistance hleft hright)

theorem agreement_inRange {left right : Float} (hleft : left.isFinite = true)
    (hright : right.isFinite = true) : (agreement rule left right).InRange :=
  .of_some hleft hright (relativeVariance_finiteByDistance hleft hright)

/-- The figures that a standard check finds are in range. -/
theorem run_inRange {c : Check} (hc : c ∈ standard) (h : c.run ctx rule arguments = .ok outcome) :
    outcome.InRange := by
  simp only [standard, List.mem_cons, List.not_mem_nil, or_false] at hc
  rcases hc with rfl | rfl | rfl | rfl | rfl | rfl | rfl | rfl
  · exact ofComparison_inRange (ordered_inRange _) h
  · exact ofComparison_inRange (ordered_inRange _) h
  · exact ofComparison_inRange agreement_inRange h
  · exact inRange_inRange h
  · exact ofBound_inRange h
  · exact ofBound_inRange h
  · exact ofComparison_inRange agreement_inRange h
  · exact required_inRange h

end Check

/-- The figures that a rule finds are in range. -/
theorem ValidationRule.execute_inRange {rule : ValidationRule} {ctx : Context} {outcome : Outcome}
    (h : rule.execute ctx .standard = .ok outcome) : outcome.InRange := by
  unfold execute at h
  split at h
  · obtain rfl := Except.ok.inj h
    exact .without_variance (fun _ hnone => by cases hnone) fun _ hnone => by cases hnone
  · rename_i c arguments hformula
    obtain ⟨-, hfind, -⟩ := Formula.resolve_eq_ok_iff.1 hformula
    exact Check.run_inRange (Registry.mem_standard hfind) h

end Scorecard
