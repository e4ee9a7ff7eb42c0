import Scorecard.Benchmark.Run
import Scorecard.Proofs.Readings

/-!
# Rating the readings

Each reading is rated by itself, so readings in another order give the same results in another
order. A result carries the id of its reading, so well-formed readings give results with different
ids.
-/

namespace Scorecard

open Text (lower)

theorem Selected.rate_kpiId {s : Selected} {kpiId : String} {value : Float}
    {result : BenchmarkResult} (h : s.rate kpiId value = .ok (.ok result)) :
    result.kpiId = kpiId := by
  obtain ⟨levels, -, h⟩ := bind_eq_ok_iff.1 h
  dsimp only at h
  split at h
  · obtain rfl := Except.ok.inj (Except.ok.inj h)
    rfl
  · simp [pure, Except.pure] at h

/-- A result is about the reading that was rated. -/
theorem Selection.rate?_kpiId {selection : Selection} {reading : Reading}
    {result : BenchmarkResult} (h : selection.rate? reading = .ok (some (.ok result))) :
    result.kpiId = reading.id := by
  unfold Selection.rate? at h
  split at h
  · obtain ⟨rated, hrated, h⟩ := map_eq_ok_iff.1 h
    obtain rfl := Option.some.inj h
    exact Selected.rate_kpiId hrated
  · simp at h

theorem Selection.rated_sublist {selection : Selection} {readings : List Reading}
    {rated : List (Option Rated)}
    (h : List.Forall₂ (fun reading r => selection.rate? reading = .ok r) readings rated) :
    ((RatingRun.ofRated (rated.filterMap id)).results.map (·.kpiId)).Sublist
      (readings.map (·.id)) := by
  rw [RatingRun.ofRated, List.filterMap_filterMap]
  induction h with
  | nil => exact .slnil
  | @cons reading outcome _ _ hreading _ ih =>
    rw [List.map_cons, List.filterMap_cons]
    rcases outcome with _ | _ | result
    · exact ih.cons _
    · exact ih.cons _
    · rw [← Selection.rate?_kpiId hreading]
      exact ih.cons_cons _

/-- The results come from readings, in their order. -/
theorem Selection.rateAll_sublist {selection : Selection} {ctx : Context} {run : RatingRun}
    (h : selection.rateAll ctx = .ok run) :
    (run.results.map (·.kpiId)).Sublist (ctx.readings.entries.map (·.id)) := by
  obtain ⟨rated, hrated, h⟩ := bind_eq_ok_iff.1 h
  obtain rfl := Except.ok.inj h
  exact rated_sublist (mapM_eq_ok_iff.1 hrated)

/-- Readings with different keys give results with different ids in lower case. -/
theorem Selection.rateAll_nodup {selection : Selection} {ctx : Context} {run : RatingRun}
    (h : selection.rateAll ctx = .ok run) (hreadings : ctx.readings.WellFormed) :
    (run.results.map fun r => lower r.kpiId).Nodup := by
  have hsublist := (rateAll_sublist h).map lower
  rw [List.map_map] at hsublist
  exact hreadings.distinct_ids.sublist hsublist

/-- Readings in another order give the same results and warnings in another order. -/
theorem Selection.rateAll_perm {selection : Selection} {ctx : Context} {readings : Readings}
    (hperm : ctx.readings.entries.Perm readings.entries) {run : RatingRun}
    (h : selection.rateAll ctx = .ok run) :
    ∃ run', selection.rateAll { ctx with readings } = .ok run' ∧
      run.results.Perm run'.results ∧ run.warnings.Perm run'.warnings := by
  obtain ⟨rated, hrated, h⟩ := bind_eq_ok_iff.1 h
  obtain rfl := Except.ok.inj h
  obtain ⟨rated', hrated', hperm'⟩ := mapM_perm hperm hrated
  refine ⟨.ofRated (rated'.filterMap id), bind_eq_ok_iff.2 ⟨rated', hrated', rfl⟩, ?_, ?_⟩
  · exact (hperm'.filterMap id).filterMap _
  · exact (hperm'.filterMap id).filterMap _

end Scorecard
