import Scorecard.Datum
import Scorecard.Proofs.Sequence
import Scorecard.Proofs.Text.Space

/-!
# Texts and numbers of data

The text of a cell is trimmed and not blank. The number that a datum denotes is a finite double, so
it is never infinite and never not-a-number.
-/

namespace Scorecard

/-- Whether a datum is a single value, as it stands in a cell. -/
def Datum.IsScalar : Datum → Prop
  | .list _ | .record _ => False
  | _ => True

instance : DecidablePred Datum.IsScalar
  | .list _ | .record _ => isFalse id
  | .null | .bool _ | .int _ | .float _ | .text _ => isTrue trivial

theorem Text.pow_le_numberLimit {digits : Nat} (h : digits ≤ longestNumber) :
    Nat.pow 10 digits ≤ numberLimit := by
  unfold numberLimit
  generalize longestNumber = most at *
  exact Nat.pow_le_pow_right (by decide) h

namespace Datum

theorem hasText_int_iff {n : Int} :
    (int n).hasText = true ↔ n.natAbs < Text.numberLimit := by
  rw [hasText, decide_eq_true_iff]

theorem written_eq_ok_iff {d : Datum} {s : String} :
    d.written = .ok s ↔ d.hasText = true ∧ d.toText = s := by
  unfold written
  cases d.hasText <;> simp

theorem written_eq_error_iff {d : Datum} {f : Fault} :
    d.written = .error f ↔ d.hasText = false ∧ f = .numberTooLong := by
  unfold written
  cases d.hasText <;> simp [eq_comm]

theorem cell?_eq_some_iff {d : Datum} {s : String} :
    d.cell? = .ok (some s) ↔
      d ≠ .null ∧ d.hasText = true ∧ Text.trim d.toText = s ∧ s ≠ "" := by
  unfold cell?
  split
  · simp
  · rename_i hnull
    rw [map_eq_ok_iff]
    simp only [written_eq_ok_iff]
    constructor
    · rintro ⟨_, ⟨htext, rfl⟩, h⟩
      split at h
      · cases h
      · rename_i hblank
        obtain rfl := Option.some.inj h
        exact ⟨hnull, htext, rfl, fun h => hblank (Text.isBlank_iff.2 h)⟩
    · rintro ⟨-, htext, rfl, hne⟩
      exact ⟨_, ⟨htext, rfl⟩, if_neg fun hblank => hne (Text.isBlank_iff.1 hblank)⟩

theorem cell?_eq_error_iff {d : Datum} {f : Fault} :
    d.cell? = .error f ↔ d.hasText = false ∧ f = .numberTooLong := by
  unfold cell?
  split
  · simp [hasText]
  · rw [map_eq_error_iff, written_eq_error_iff]

end Datum

theorem isNaN_eq_false_of_isFinite {x : Float} (h : x.isFinite = true) : x.isNaN = false := by
  unfold Float.isFinite Float.Model.isFinite at h
  unfold Float.isNaN Float.Model.isNaN
  -- Both are read off the unpacked form, and only that of a finite number passes the hypothesis.
  cases hx : x.toModel.unpack with
  | notANumber =>
    rw [hx] at h
    cases h
  | infinity _ => rfl
  | zero _ => rfl
  | finite _ _ _ => rfl

theorem finite?_eq_some_iff {x y : Float} : finite? x = some y ↔ x = y ∧ x.isFinite = true := by
  unfold finite?
  constructor
  · intro h
    split at h
    · rename_i hfinite
      exact ⟨Option.some.inj h, hfinite⟩
    · cases h
  · rintro ⟨rfl, hfinite⟩
    exact if_pos hfinite

theorem finite?_isFinite {x y : Float} (h : finite? x = some y) : y.isFinite = true := by
  obtain ⟨rfl, hfinite⟩ := finite?_eq_some_iff.1 h
  exact hfinite

theorem textNumber?_isFinite {s : String} {x : Float} (h : textNumber? s = some x) :
    x.isFinite = true := by
  obtain ⟨y, -, hy⟩ := Option.bind_eq_some_iff.1 h
  exact finite?_isFinite hy

theorem Datum.number?_isFinite {d : Datum} {x : Float} (h : d.number? = .ok (some x)) :
    x.isFinite = true := by
  unfold Datum.number? at h
  split at h
  · dsimp only at h
    split at h
    · rename_i n hfinite
      obtain rfl := Option.some.inj (Except.ok.inj h)
      exact hfinite
    · cases h
  · exact finite?_isFinite (Except.ok.inj h)
  · exact textNumber?_isFinite (Except.ok.inj h)
  · cases h
  · cases h
  · obtain ⟨_, -, h⟩ := map_eq_ok_iff.1 h
    cases h
  · obtain ⟨_, -, h⟩ := map_eq_ok_iff.1 h
    cases h

end Scorecard
