import Scorecard.Proofs.Benchmark.Rating
import Scorecard.Proofs.Decimal.Order

/-!
# How ratings follow figures and thresholds

A figure is on a level, or on a better one, exactly if it meets the threshold of this level or of a
better one. That holds for thresholds in any order, and so does what follows from it: a higher
figure is rated no worse and higher thresholds rate no better where higher is better, and where
lower is better everything is the mirror image of that.
-/

namespace Scorecard

namespace Levels

/-- Whether all four thresholds are finite. -/
def Finite (levels : Levels Float) : Prop :=
  ∀ threshold ∈ levels.toList, threshold.isFinite = true

instance (levels : Levels Float) : Decidable levels.Finite :=
  inferInstanceAs (Decidable (∀ _ ∈ _, _))

/-- Two fours of thresholds that are related level by level. -/
structure Pointwise (r : Float → Float → Prop) (levels levels' : Levels Float) : Prop where
  /-- The poor thresholds are related. -/
  poor : r levels.poor levels'.poor
  /-- The average thresholds are related. -/
  average : r levels.average levels'.average
  /-- The good thresholds are related. -/
  good : r levels.good levels'.good
  /-- The excellent thresholds are related. -/
  excellent : r levels.excellent levels'.excellent

theorem Pointwise.of_forall {r : Float → Float → Prop} {levels : Levels Float}
    (h : ∀ t ∈ levels.toList, r t t) : Pointwise r levels levels := by
  simp only [toList, List.forall_mem_cons] at h
  obtain ⟨hpoor, haverage, hgood, hexcellent, -⟩ := h
  exact ⟨hpoor, haverage, hgood, hexcellent⟩

/-! ## Ranks -/

/-- The rank that a figure has by one threshold alone: that of its level, if the figure meets the
threshold. -/
def rankBy (direction : Direction) (value threshold : Float) (rating : Rating) : Nat :=
  if direction.meets value threshold then rating.rank else 0

/-- A figure has the highest of the ranks that it has by the four thresholds, in whatever order
these are. -/
theorem rank_rate (levels : Levels Float) (direction : Direction) (value : Float) :
    (levels.rate direction value).rank =
      max (rankBy direction value levels.poor .poor)
        (max (rankBy direction value levels.average .average)
          (max (rankBy direction value levels.good .good)
            (rankBy direction value levels.excellent .excellent))) := by
  unfold rate rankBy
  cases direction.meets value levels.excellent <;> cases direction.meets value levels.good <;>
    cases direction.meets value levels.average <;> cases direction.meets value levels.poor <;> rfl

/-- If one figure meets a threshold where another one meets another threshold. -/
def MeetsWhere (direction : Direction) (value value' : Float) (t t' : Float) : Prop :=
  direction.meets value t = true → direction.meets value' t' = true

section Ranks

variable {direction : Direction} {value value' : Float}

theorem rankBy_le {t t' : Float} (rating : Rating) (h : MeetsWhere direction value value' t t') :
    rankBy direction value t rating ≤ rankBy direction value' t' rating := by
  unfold rankBy
  by_cases hmeets : direction.meets value t = true
  · rw [if_pos hmeets, if_pos (h hmeets)]
  · rw [if_neg hmeets]
    exact Nat.zero_le _

/-- A figure that meets its threshold of every level where another figure meets its own is rated no
worse than that. -/
theorem rank_rate_le {levels levels' : Levels Float}
    (h : Pointwise (MeetsWhere direction value value') levels levels') :
    (levels.rate direction value).rank ≤ (levels'.rate direction value').rank := by
  rw [rank_rate, rank_rate]
  exact max_le_max (rankBy_le _ h.poor) (max_le_max (rankBy_le _ h.average)
    (max_le_max (rankBy_le _ h.good) (rankBy_le _ h.excellent)))

end Ranks

/-! ## Finite figures and thresholds -/

section Finite

variable {levels : Levels Float} {v : Float}

/-- Of two figures the larger one is rated no worse where higher is better. -/
theorem rank_rate_le_of_le {w : Float} (hlevels : levels.Finite) (hv : v.isFinite = true)
    (hw : w.isFinite = true) (h : v ≤ w) :
    (levels.rate .higher v).rank ≤ (levels.rate .higher w).rank := by
  refine rank_rate_le (.of_forall fun t ht hmeets => ?_)
  have hle : t ≤ v := of_decide_eq_true hmeets
  exact decide_eq_true (Decimal.le_trans_of_isFinite (hlevels t ht) hv hw hle h)

/-- By thresholds that are raised, one of them or several, a figure is rated no better where higher
is better. -/
theorem rank_rate_le_of_raised {raised : Levels Float} (hlevels : levels.Finite)
    (hraised : raised.Finite) (hv : v.isFinite = true) (h : Pointwise (· ≤ ·) levels raised) :
    (raised.rate .higher v).rank ≤ (levels.rate .higher v).rank := by
  have hone {t t' : Float} (ht : t ∈ levels.toList) (ht' : t' ∈ raised.toList) (hle : t ≤ t') :
      MeetsWhere .higher v v t' t := by
    intro hmeets
    have hmet : t' ≤ v := of_decide_eq_true hmeets
    exact decide_eq_true
      (Decimal.le_trans_of_isFinite (hlevels t ht) (hraised t' ht') hv hle hmet)
  refine rank_rate_le ⟨?_, ?_, ?_, ?_⟩
  · exact hone (by simp [toList]) (by simp [toList]) h.poor
  · exact hone (by simp [toList]) (by simp [toList]) h.average
  · exact hone (by simp [toList]) (by simp [toList]) h.good
  · exact hone (by simp [toList]) (by simp [toList]) h.excellent

theorem meets_neg {t : Float} (hv : v.isFinite = true) (ht : t.isFinite = true) :
    Direction.higher.meets (-v) (-t) = Direction.lower.meets v t :=
  decide_eq_decide.2 (Decimal.neg_le_neg_iff_le ht hv)

/-- Where lower is better, a figure is rated as its negation is by the negated thresholds where
higher is better. -/
theorem rate_lower (hlevels : levels.Finite) (hv : v.isFinite = true) :
    levels.rate .lower v = (levels.map (- ·)).rate .higher (-v) := by
  simp only [Finite, toList, List.forall_mem_cons] at hlevels
  obtain ⟨hpoor, haverage, hgood, hexcellent, -⟩ := hlevels
  simp only [rate, map, meets_neg hv hpoor, meets_neg hv haverage, meets_neg hv hgood,
    meets_neg hv hexcellent]

/-- By four finite thresholds in any order, a finite figure has the rating of all data that give
these numbers. Where higher is better, a larger figure is rated no worse and raised thresholds, one
of them or several, rate no better; and where lower is better, a figure is rated as its negation is
by the negated thresholds where higher is better. -/
theorem rate_monotone_mirrored (hlevels : levels.Finite) (hv : v.isFinite = true) :
    (∀ value thresholds, GiveRating value thresholds v levels → ∀ direction : Direction,
      rateData value thresholds direction.name = .ok (some (levels.rate direction v))) ∧
    (∀ w : Float, w.isFinite = true → v ≤ w →
      (levels.rate .higher v).rank ≤ (levels.rate .higher w).rank) ∧
    (∀ raised : Levels Float, raised.Finite → Pointwise (· ≤ ·) levels raised →
      (raised.rate .higher v).rank ≤ (levels.rate .higher v).rank) ∧
    levels.rate .lower v = (levels.map (- ·)).rate .higher (-v) := by
  refine ⟨?_, ?_, ?_, rate_lower hlevels hv⟩
  · intro value thresholds h direction
    exact h.rateData_eq direction
  · intro w hw hle
    exact rank_rate_le_of_le hlevels hv hw hle
  · intro raised hraised hle
    exact rank_rate_le_of_raised hlevels hraised hv hle

end Finite

/-- Thresholds that do not rise from level to level. -/
def scrambled : Levels Float :=
  ⟨40.0, 10.0, 30.0, 20.0⟩

theorem rate_scrambled :
    scrambled.Finite ∧ (25.0 : Float).isFinite = true ∧
      rateData (.text " 25") (.list [.int 40, .text "10", .float 30.0, .int 20]) "higher" =
        .ok (some (scrambled.rate .higher 25.0)) ∧
      (scrambled.rate .higher 25.0).rank ≤ (scrambled.rate .higher 31.0).rank ∧
      ({ scrambled with excellent := 26.0 }.rate .higher 25.0).rank ≤
        (scrambled.rate .higher 25.0).rank ∧
      scrambled.rate .lower 25.0 = (scrambled.map (- ·)).rate .higher (-25.0) := by
  have hlevels : scrambled.Finite := by decide
  have hv : (25.0 : Float).isFinite = true := by decide
  obtain ⟨hdata, hvalue, hraised, hmirror⟩ := rate_monotone_mirrored hlevels hv
  have hgive : GiveRating (.text " 25") (.list [.int 40, .text "10", .float 30.0, .int 20]) 25.0
      scrambled := by
    refine ⟨?_, hv, ⟨.int 40, .text "10", .float 30.0, .int 20⟩, rfl, ?_⟩ <;> decide
  refine ⟨hlevels, hv, hdata _ _ hgive .higher, ?_, ?_, hmirror⟩
  · exact hvalue 31.0 (by decide) (by decide)
  · refine hraised _ (by decide) ⟨?_, ?_, ?_, ?_⟩ <;> decide

end Levels

end Scorecard
