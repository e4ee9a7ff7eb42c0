import Scorecard.Figure
import Scorecard.Proofs.Datum

/-!
# Writing figures

A number can be written in any format, whatever it is, if the number of places is neither negative
nor above the most that a figure may have. Nothing else about the number, the KPI or the settings
decides whether it can. With the last few hundred of these numbers of places, though, a large number
has more digits than can be counted, and a zero is written in its place.
-/

namespace Scorecard.Figure

/-- Whether a figure may have this many places. -/
def Writable (places : Int) : Prop :=
  0 ≤ places ∧ places ≤ mostPlaces

instance : DecidablePred Writable :=
  fun places => inferInstanceAs (Decidable (0 ≤ places ∧ places ≤ mostPlaces))

theorem Writable.toNat_le {places : Int} (h : Writable places) :
    places.toNat ≤ Decimal.mostDigits := by
  unfold Writable mostPlaces at h
  unfold Decimal.mostDigits
  omega

/-- A number of places that a figure may have has few digits. -/
theorem Writable.hasText {places : Int} (h : Writable places) :
    (Datum.int places).hasText = true := by
  have hmost : mostPlaces < Nat.pow 10 10 := by decide
  have hlimit : Nat.pow 10 10 ≤ Text.numberLimit := Text.pow_le_numberLimit (by decide)
  rw [Datum.hasText_int_iff]
  obtain ⟨hnonneg, hle⟩ := h
  omega

theorem places?_of_writable {places : Int} (h : Writable places) :
    places? places = .ok places.toNat := by
  rw [places?, h.hasText]
  obtain ⟨hnonneg, hle⟩ := h
  rw [if_neg (by simp), if_neg (by omega), if_neg (by omega)]

theorem exists_places?_iff {places : Int} : (∃ n, places? places = .ok n) ↔ Writable places := by
  refine ⟨?_, fun h => ⟨_, places?_of_writable h⟩⟩
  rintro ⟨n, h⟩
  unfold places? at h
  split at h
  · cases h
  · split at h
    · cases h
    · rename_i hnonneg
      split at h
      · cases h
      · rename_i hfew
        exact ⟨by omega, by omega⟩

theorem exists_rounded_iff (x : Float) {places : Int} :
    (∃ s, rounded x places = .ok s) ↔ Writable places := by
  rw [rounded, exists_map_eq_ok_iff, exists_places?_iff]

theorem exists_grouped_iff (x : Float) {places : Int} :
    (∃ s, grouped x places = .ok s) ↔ Writable places := by
  rw [grouped, exists_map_eq_ok_iff, exists_places?_iff]

theorem exists_money_iff (symbol : String) (x : Float) {places : Int} :
    (∃ s, money symbol x places = .ok s) ↔ Writable places := by
  rw [money, exists_map_eq_ok_iff, exists_places?_iff]

/-- A figure of a KPI can be written exactly if its number of places can. -/
theorem exists_format_iff (style : Style) (kpi : Kpi) (x : Float) :
    (∃ s, format style kpi x = .ok s) ↔ Writable (style.placesOf kpi) := by
  unfold format
  dsimp only
  split
  · exact exists_money_iff _ _
  · rw [exists_map_eq_ok_iff, exists_grouped_iff]

end Scorecard.Figure
