import Scorecard.Proofs.Decimal.Range

/-!
# Infinities and not-a-number

What arithmetic does with doubles that are not finite. Not-a-number stays in the result of every
operation. An infinity stays infinite or becomes not-a-number, except as a divisor, where the
quotient may be zero.
-/

namespace Scorecard.Decimal

open Float.Model (UnpackedFloat Format)
open Float.Model.UnpackedFloat

theorem isNaN_iff_unpack {x : Float} : x.isNaN = true ↔ x.toModel.unpack = .notANumber := by
  unfold Float.isNaN Float.Model.isNaN
  cases x.toModel.unpack <;> simp [UnpackedFloat.isNaN]

theorem isInf_iff_unpack {x : Float} : x.isInf = true ↔ ∃ s, x.toModel.unpack = .infinity s := by
  unfold Float.isInf Float.Model.isInf
  cases x.toModel.unpack <;> simp [UnpackedFloat.isInf]

/-- A double is finite, infinite or not-a-number. -/
theorem isFinite_eq_false_iff {x : Float} :
    x.isFinite = false ↔ x.isNaN = true ∨ x.isInf = true := by
  unfold Float.isFinite Float.Model.isFinite Float.isNaN Float.Model.isNaN Float.isInf
    Float.Model.isInf
  cases x.toModel.unpack <;> simp [UnpackedFloat.isFinite, UnpackedFloat.isNaN, UnpackedFloat.isInf]

theorem unpack_of_isFinite {x : Float} (hx : x.isFinite = true) :
    (∃ s, x.toModel.unpack = .zero s) ∨ ∃ s m e h, x.toModel.unpack = .finite s m e h := by
  unfold Float.isFinite Float.Model.isFinite at hx
  cases hunpack : x.toModel.unpack with
  | notANumber | infinity _ =>
    rw [hunpack] at hx
    cases hx
  | zero s => exact .inl ⟨s, rfl⟩
  | finite s m e h => exact .inr ⟨s, m, e, h, rfl⟩

/-- A double that is packed from a form that is not finite is not finite. -/
theorem isFinite_of_unpacked {x : Float} {u : UnpackedFloat}
    (hx : x.toModel.unpack = (Float.Model.pack u).unpack) (hu : u.isFinite = false) :
    x.isFinite = false := by
  unfold Float.isFinite Float.Model.isFinite
  rw [hx]
  cases u with
  | notANumber => rfl
  | infinity s => cases s <;> rfl
  | zero _ | finite _ _ _ _ => cases hu

theorem isNaN_neg {x : Float} (h : x.isNaN = true) : (-x).isNaN = true := by
  have hneg : (-x).toModel.unpack = (Float.Model.pack x.toModel.unpack.neg).unpack := rfl
  rw [isNaN_iff_unpack, hneg, isNaN_iff_unpack.1 h]
  rfl

end Scorecard.Decimal
