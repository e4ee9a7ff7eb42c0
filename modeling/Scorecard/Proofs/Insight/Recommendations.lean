import Scorecard.Proofs.Insight.Prefixes
import Scorecard.Schema.Settings

/-!
# How many recommendations a finding shows

A finding shows the recommendations of its rule from the first one on. The settings say how many. A
number that is not negative is a limit. A negative one is no limit of zero: that many
recommendations are left out at the end, and the others are shown. A rule has five at most, and so
has a finding.
-/

namespace Scorecard

open Text (lower)

namespace InsightRule

/-! ## Bounds on lists -/

section Bound

variable {α : Type} {n : Int}

theorem firstOrAllBut_of_nonneg (h : 0 ≤ n) (items : List α) :
    firstOrAllBut n items = items.take n.toNat :=
  if_neg (Int.not_lt.2 h)

theorem firstOrAllBut_of_neg (h : n < 0) (items : List α) :
    firstOrAllBut n items = items.take (items.length - n.natAbs) :=
  if_pos h

theorem length_firstOrAllBut_le (n : Int) (items : List α) :
    (firstOrAllBut n items).length ≤ items.length := by
  unfold firstOrAllBut
  split <;> exact List.length_take_le' _ _

/-- A bound is a limit on the number of items unless it is negative and some items are left. -/
theorem firstOrAllBut_eq_take_iff {items : List α} :
    firstOrAllBut n items = items.take (max 0 n).toNat ↔ 0 ≤ n ∨ items.length ≤ n.natAbs := by
  by_cases h : 0 ≤ n
  · rw [firstOrAllBut_of_nonneg h, max_eq_right h]
    exact iff_of_true rfl (.inl h)
  · have hneg : n < 0 := Int.not_le.1 h
    rw [firstOrAllBut_of_neg hneg, max_eq_left hneg.le, Int.toNat_zero, List.take_zero,
      List.take_eq_nil_iff, ← List.length_eq_zero_iff]
    omega

end Bound

/-! ## Recommendations -/

variable {rule : InsightRule} {ctx : Context} {lookup : RatingLookup}

/-- The recommendations of a rule with the fields that they show. -/
def renderedAdvice (rule : InsightRule) (fields : Fields) : List String :=
  rule.recommendations.map (Template.render · fields.text?)

theorem length_renderedAdvice_le (rule : InsightRule) (fields : Fields) :
    (rule.renderedAdvice fields).length ≤ recommendationLimit := by
  rw [renderedAdvice, List.length_map, recommendations]
  exact List.length_take_le _ _

/-- A rule gives a finding exactly if its trigger holds and the figures that it shows can be
written. -/
theorem exists_fired_iff :
    (∃ finding, rule.fire ctx lookup = .ok (.fired finding)) ↔
      ∃ clauses, rule.clauses = .ok clauses ∧ Trigger.fires clauses lookup.rating? = true ∧
        ∀ id ∈ rule.shownIds clauses, (lookup.result? (lower id)).isSome = true →
          ctx.Writes id := by
  simp only [fire_eq_fired_iff_exists, ← exists_render_iff]
  constructor
  · rintro ⟨finding, clauses, hclauses, hfires, hfinding⟩
    exact ⟨clauses, hclauses, hfires, finding, hfinding⟩
  · rintro ⟨clauses, hclauses, hfires, finding, hfinding⟩
    exact ⟨finding, clauses, hclauses, hfires, hfinding⟩

/-- A finding has the recommendations of its rule that the bound of the settings leaves. -/
theorem recommendations_of_fire {finding : Finding}
    (h : rule.fire ctx lookup = .ok (.fired finding)) :
    ∃ clauses fs, rule.clauses = .ok clauses ∧ rule.fields clauses ctx lookup = .ok fs ∧
      finding.recommendations =
        firstOrAllBut ctx.settings.maxRecommendations (rule.renderedAdvice fs) := by
  obtain ⟨clauses, hclauses, -, hfinding⟩ := fire_eq_fired_iff_exists.1 h
  obtain ⟨fs, hfs, rfl⟩ := render_eq_ok_iff.1 hfinding
  exact ⟨clauses, fs, hclauses, hfs, rfl⟩

/-- A rule whose trigger holds gives a finding if the figures that it shows can be written. The
finding has the recommendations of the rule, rendered: as many of the first ones as the settings say
or, if they give a negative number, all but that many of the last ones. There are never more than
five. The number in the settings is a limit, where a negative one counts as zero, exactly if it is
not negative or leaves no recommendation over. -/
theorem fire_recommends (rule : InsightRule) (ctx : Context) (lookup : RatingLookup) :
    ((∃ finding, rule.fire ctx lookup = .ok (.fired finding)) ↔
      ∃ clauses, rule.clauses = .ok clauses ∧ Trigger.fires clauses lookup.rating? = true ∧
        ∀ id ∈ rule.shownIds clauses, (lookup.result? (lower id)).isSome = true →
          ctx.Writes id) ∧
    ∀ finding, rule.fire ctx lookup = .ok (.fired finding) →
      ∃ clauses fs, rule.clauses = .ok clauses ∧ rule.fields clauses ctx lookup = .ok fs ∧
        let bound := ctx.settings.maxRecommendations
        let advice := rule.renderedAdvice fs
        (0 ≤ bound → finding.recommendations = advice.take bound.toNat) ∧
        (bound < 0 → finding.recommendations = advice.take (advice.length - bound.natAbs)) ∧
        finding.recommendations.length ≤ 5 ∧
        (finding.recommendations = advice.take (max 0 bound).toNat ↔
          0 ≤ bound ∨ advice.length ≤ bound.natAbs) := by
  refine ⟨exists_fired_iff, fun finding hfinding => ?_⟩
  obtain ⟨clauses, fs, hclauses, hfs, hshown⟩ := recommendations_of_fire hfinding
  refine ⟨clauses, fs, hclauses, hfs, ?_⟩
  dsimp only
  rw [hshown]
  refine ⟨fun h => firstOrAllBut_of_nonneg h _, fun h => firstOrAllBut_of_neg h _, ?_,
    firstOrAllBut_eq_take_iff⟩
  exact (length_firstOrAllBut_le _ _).trans (length_renderedAdvice_le rule fs)

/-- Settings with a negative number of recommendations. -/
def negativeLimitFields : List (Datum × Datum) :=
  [(.text "max_recommendations", .int (-1))]

/-- A rule with three recommendations. -/
def adviceRule : InsightRule where
  id := "advice"
  kpiIds := ["revenue"]
  trigger := "any"
  advice := ["Call back", "Raise \x7bkpi_name\x7d", "Ask again"]

/-- The schema of settings lets a limit of minus one pass, and two recommendations are shown. -/
theorem not_fire_recommends_at_most : ¬ ∀ (fields : List (Datum × Datum)) (settings : Settings)
    (rule : InsightRule) (ctx : Context) (lookup : RatingLookup) (clauses : List Clause)
    (fs : Fields) (finding : Finding), Settings.ofFields fields = .ok settings →
      ctx.settings = settings → rule.clauses = .ok clauses →
      rule.fields clauses ctx lookup = .ok fs → rule.fire ctx lookup = .ok (.fired finding) →
      finding.recommendations =
        (rule.renderedAdvice fs).take (max 0 settings.maxRecommendations).toNat := by
  intro h
  let settings : Settings := { maxRecommendations := -1 }
  let lookup : RatingLookup := RatingRun.lookup ⟨[ratedGood "revenue" 5.0], []⟩
  have hsettings : Settings.ofFields negativeLimitFields = .ok settings := rfl
  have hclauses : adviceRule.clauses = .ok [⟨"revenue", .any⟩] := by decide
  obtain ⟨fs, hfs⟩ : ∃ fs, adviceRule.fields [⟨"revenue", .any⟩] { settings } lookup = .ok fs :=
    exists_eq_ok (by decide +kernel)
  have hrendered : adviceRule.render [⟨"revenue", .any⟩] { settings } lookup =
      .ok (adviceRule.shown settings fs) := render_eq_ok_iff.2 ⟨fs, hfs, rfl⟩
  have hfires : Trigger.fires [⟨"revenue", .any⟩] lookup.rating? = true := by decide
  have hnone : firstOrAllBut (-1) (adviceRule.renderedAdvice fs) =
      (adviceRule.renderedAdvice fs).take (max 0 (-1 : Int)).toNat :=
    h negativeLimitFields settings adviceRule { settings } lookup _ fs _ hsettings rfl hclauses hfs
      (fire_eq_fired_iff_exists.2 ⟨_, hclauses, hfires, hrendered⟩)
  have hthree : (adviceRule.renderedAdvice fs).length = 3 := by
    rw [renderedAdvice, List.length_map]
    decide
  rcases firstOrAllBut_eq_take_iff.1 hnone with hsign | hleft
  · exact absurd hsign (by decide)
  · rw [hthree] at hleft
    exact absurd hleft (by decide)

end InsightRule

end Scorecard
