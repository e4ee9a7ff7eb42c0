import Scorecard.Insight.Run
import Scorecard.Proofs.Assoc
import Scorecard.Proofs.Sequence

/-!
# Running insight rules

Insight rules find ratings and benchmark results by the ids of their KPIs in lower case. If these
ids are different, every result is found under its own id, and the order of the results does not
matter. A rule that runs has a trigger that cannot be read, or it fires, or it does not; a trigger
that can be read has a clause at least.
-/

namespace Scorecard

open Text (lower)

namespace RatingRun

/-- The look-up in the results of a run. -/
def lookup (run : RatingRun) : RatingLookup :=
  .of run.ratings run.results

variable {run : RatingRun} {key : String}

theorem ratings_keys (run : RatingRun) :
    (run.ratings.map fun (id, r) => (lower id, r)).map Prod.fst =
      run.results.map fun r => lower r.kpiId := by
  rw [ratings, List.map_map, List.map_map]
  rfl

/-- A result is found under its id. -/
theorem lookup_result?_eq_some_iff (h : (run.results.map fun r => lower r.kpiId).Nodup)
    {result : BenchmarkResult} :
    run.lookup.result? key = some result ↔ result ∈ run.results ∧ lower result.kpiId = key := by
  have hkeys : ((run.results.map fun r => (lower r.kpiId, r)).map Prod.fst).Nodup := by
    rwa [List.map_map]
  rw [lookup, RatingLookup.of, Assoc.ofList_of_nodup hkeys, Assoc.lookup_eq_some_iff_mem hkeys,
    List.mem_map]
  constructor
  · rintro ⟨r, hr, heq⟩
    obtain ⟨rfl, rfl⟩ := Prod.mk.inj heq
    exact ⟨hr, rfl⟩
  · rintro ⟨hr, rfl⟩
    exact ⟨result, hr, rfl⟩

theorem lookup_rating?_eq_some_iff (h : (run.results.map fun r => lower r.kpiId).Nodup)
    {rating : Rating} :
    run.lookup.rating? key = some rating ↔
      ∃ result ∈ run.results, lower result.kpiId = key ∧ result.rating = rating := by
  have hkeys : ((run.ratings.map fun (id, r) => (lower id, r)).map Prod.fst).Nodup := by
    rwa [ratings_keys]
  rw [lookup, RatingLookup.of, Assoc.ofList_of_nodup hkeys, Assoc.lookup_eq_some_iff_mem hkeys,
    ratings, List.map_map, List.mem_map]
  simp only [Function.comp_apply, Prod.mk.injEq]

/-- The order of the results does not matter. -/
theorem lookup_perm {run' : RatingRun} (hperm : run.results.Perm run'.results)
    (h : (run.results.map fun r => lower r.kpiId).Nodup) : run.lookup = run'.lookup := by
  have h' : (run'.results.map fun r => lower r.kpiId).Nodup := (hperm.map _).nodup h
  have hratings : run.ratings.Perm run'.ratings := hperm.map _
  rw [← ratings_keys] at h h'
  rw [lookup, lookup, RatingLookup.of, RatingLookup.of, RatingLookup.mk.injEq]
  constructor
  · funext key
    rw [Assoc.ofList_of_nodup h, Assoc.ofList_of_nodup h']
    exact Assoc.lookup_perm (hratings.map _) h key
  · funext key
    rw [ratings_keys] at h h'
    rw [Assoc.ofList_of_nodup (by rwa [List.map_map]),
      Assoc.ofList_of_nodup (by rwa [List.map_map])]
    exact Assoc.lookup_perm (hperm.map _) (by rwa [List.map_map]) key

end RatingRun

/-! ## Clauses -/

theorem Trigger.parts_ne_nil (cs : List Char) : parts cs ≠ [] := by
  rw [parts]
  split
  · exact List.cons_ne_nil _ _
  · split
    · exact List.cons_ne_nil _ _
    · split
      · exact List.cons_ne_nil _ _
      · exact List.cons_ne_nil _ _

theorem Trigger.parse_ne_nil {text : String} {clauses : List Clause}
    (h : parse text = .ok clauses) : clauses ≠ [] := by
  unfold parse at h
  dsimp only at h
  split at h
  · cases h
  · rintro rfl
    have hforall := mapM_eq_ok_iff.1 h
    exact parts_ne_nil _ (List.forall₂_nil_right_iff.1 hforall)

namespace InsightRule

variable {rule : InsightRule} {ctx : Context} {lookup : RatingLookup} {clauses : List Clause}

/-- No trigger holds for want of clauses. -/
theorem clauses_ne_nil (h : rule.clauses = .ok clauses) : clauses ≠ [] := by
  unfold InsightRule.clauses at h
  split at h
  · exact Trigger.parse_ne_nil h
  · split at h
    · cases h
    · obtain ⟨condition, -, rfl⟩ := map_eq_ok_iff.1 h
      exact List.cons_ne_nil _ _

/-! ## One rule -/

/-- The finding of a rule that shows the given fields. -/
def shown (rule : InsightRule) (settings : Settings) (fields : Fields) : Finding where
  id := rule.id
  title := Template.render rule.title fields.text?
  status := rule.status
  summary := Template.render rule.summary fields.text?
  detail := Template.render rule.detail fields.text?
  recommendations := firstOrAllBut settings.maxRecommendations
    (rule.recommendations.map (Template.render · fields.text?))
  sectionId := rule.sectionId
  priority := rule.priority

theorem render_eq_ok_iff {finding : Finding} :
    rule.render clauses ctx lookup = .ok finding ↔
      ∃ fields, rule.fields clauses ctx lookup = .ok fields ∧
        finding = rule.shown ctx.settings fields := by
  unfold render
  rw [bind_eq_ok_iff]
  constructor
  · rintro ⟨fields, hfields, h⟩
    exact ⟨fields, hfields, (Except.ok.inj h).symm⟩
  · rintro ⟨fields, hfields, rfl⟩
    exact ⟨fields, hfields, rfl⟩

/-- All that can become of a rule. -/
theorem fire_eq_ok_iff {firing : Firing} :
    rule.fire ctx lookup = .ok firing ↔
      (∃ e, rule.clauses = .error e ∧ firing = .malformed ⟨.insight, rule.id, .trigger e⟩) ∨
      ∃ clauses, rule.clauses = .ok clauses ∧
        ((Trigger.fires clauses lookup.rating? = true ∧
            ∃ finding, rule.render clauses ctx lookup = .ok finding ∧ firing = .fired finding) ∨
          (Trigger.fires clauses lookup.rating? = false ∧ firing = .silent)) := by
  unfold fire
  constructor
  · intro h
    split at h
    · rename_i e he
      exact .inl ⟨e, he, (Except.ok.inj h).symm⟩
    · rename_i clauses hclauses
      refine .inr ⟨clauses, hclauses, ?_⟩
      split at h
      · rename_i hfires
        obtain ⟨finding, hfinding, rfl⟩ := map_eq_ok_iff.1 h
        exact .inl ⟨hfires, finding, hfinding, rfl⟩
      · rename_i hfires
        exact .inr ⟨Bool.eq_false_iff.2 hfires, (Except.ok.inj h).symm⟩
  · rintro (⟨e, he, rfl⟩ | ⟨clauses, hclauses, ⟨hfires, finding, hfinding, rfl⟩ | ⟨hfires, rfl⟩⟩)
    · rw [he]
    · rw [hclauses]
      dsimp only
      rw [if_pos hfires, hfinding]
      rfl
    · rw [hclauses]
      dsimp only
      rw [if_neg (Bool.eq_false_iff.1 hfires)]

/-- A rule gives a finding if its trigger holds and it can be rendered. -/
theorem fire_eq_fired_iff_exists {finding : Finding} :
    rule.fire ctx lookup = .ok (.fired finding) ↔
      ∃ clauses, rule.clauses = .ok clauses ∧ Trigger.fires clauses lookup.rating? = true ∧
        rule.render clauses ctx lookup = .ok finding := by
  rw [fire_eq_ok_iff]
  constructor
  · rintro (⟨e, -, hfiring⟩ | ⟨clauses, hclauses, ⟨hfires, shown, hshown, hfiring⟩ | ⟨-, hfiring⟩⟩)
    · cases hfiring
    · obtain rfl := Firing.fired.inj hfiring
      exact ⟨clauses, hclauses, hfires, hshown⟩
    · cases hfiring
  · rintro ⟨clauses, hclauses, hfires, hfinding⟩
    exact .inr ⟨clauses, hclauses, .inl ⟨hfires, finding, hfinding, rfl⟩⟩

end InsightRule

end Scorecard
