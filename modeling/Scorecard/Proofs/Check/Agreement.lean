import Scorecard.Proofs.Check.Figures
import Scorecard.Proofs.Check.Written
import Scorecard.Proofs.Decimal.Order

/-!
# Standard checks that agree with one another

Several standard checks make one comparison in different words. `RANGE` asks for the negations of
two strict comparisons where `RATIO_MIN` and `RATIO_MAX` ask for the weak ones, and `GREATER` is
what `GTE` denies with its arguments exchanged. As no value and no bound is infinite or
not-a-number, the comparisons are those of a total order, and the checks agree, at the bounds too.
-/

namespace Scorecard

/-- Outcomes of which both are skips or neither is, and then exactly one is a pass. -/
structure Outcome.Opposes (outcome outcome' : Outcome) : Prop where
  /-- One is a skip exactly if the other is. -/
  skipped : outcome.skipped = outcome'.skipped
  /-- Of two that are no skips exactly one is a pass. -/
  passed : outcome.skipped = false → outcome.passed = !outcome'.passed

/-- An outcome that is a skip if the two others are, which are so together, and otherwise a pass
exactly if both of them are. -/
structure Outcome.Joins (outcome first second : Outcome) : Prop where
  /-- The outcome is a skip exactly if the first is. -/
  skipped_first : outcome.skipped = first.skipped
  /-- The outcome is a skip exactly if the second is. -/
  skipped_second : outcome.skipped = second.skipped
  /-- An outcome that is no skip is a pass exactly if both are. -/
  passed : outcome.skipped = false → outcome.passed = (first.passed && second.passed)

namespace Check

variable {ctx : Context}

/-! ## Bounds -/

theorem between_skipped (value low high : Float) : (between value low high).skipped = false := by
  unfold between
  split
  · rfl
  · split <;> rfl

/-- Neither below the one bound nor above the other is on or above the one and on or below the
other. -/
theorem between_passed {value low high : Float} (hvalue : value.isFinite = true)
    (hlow : low.isFinite = true) (hhigh : high.isFinite = true) :
    (between value low high).passed = (decide (low ≤ value) && decide (value ≤ high)) := by
  unfold between
  by_cases hbelow : value < low
  · have hnot : ¬ low ≤ value := fun h => (Decimal.not_lt_iff_le hvalue hlow).2 h hbelow
    simp [hbelow, hnot]
  · have hlow_le : low ≤ value := (Decimal.not_lt_iff_le hvalue hlow).1 hbelow
    by_cases habove : high < value
    · have hnot : ¬ value ≤ high := fun h => (Decimal.not_lt_iff_le hhigh hvalue).2 h habove
      simp [hbelow, habove, hnot]
    · have hle_high : value ≤ high := (Decimal.not_lt_iff_le hhigh hvalue).1 habove
      simp [hbelow, habove, hlow_le, hle_high]

/-- Two bounds at once are the two bounds one by one. -/
theorem inRange_joins (rule rule₁ rule₂ : ValidationRule) (e : String) {lo hi : String}
    (hlo : ArgumentKind.number.Accepts ctx lo) (hhi : ArgumentKind.number.Accepts ctx hi) :
    ∃ within atLeast atMost, inRange ctx rule [e, lo, hi] = .ok within ∧
      ratioMin.run ctx rule₁ [e, lo] = .ok atLeast ∧
      ratioMax.run ctx rule₂ [e, hi] = .ok atMost ∧ within.Joins atLeast atMost := by
  obtain ⟨low, hlow⟩ := hlo
  obtain ⟨high, hhigh⟩ := hhi
  simp only [inRange, ratioMin, ratioMax, ofBound, hlow, hhigh]
  cases hvalue : ctx.evaluate? e with
  | none => exact ⟨_, _, _, rfl, rfl, rfl, rfl, rfl, fun hrun => by cases hrun⟩
  | some value =>
    have hpassed := between_passed (Context.evaluate?_isFinite hvalue) (textNumber?_isFinite hlow)
      (textNumber?_isFinite hhigh)
    have hskipped := between_skipped value low high
    exact ⟨_, _, _, rfl, rfl, rfl, hskipped, hskipped, fun _ => hpassed⟩

/-! ## Comparisons -/

/-- Greater than is not less than or equal, the other way round. -/
theorem greater_opposes (rule rule' : ValidationRule) (a b : String) :
    ∃ above notBelow, greater.run ctx rule [a, b] = .ok above ∧
      greaterOrEqual.run ctx rule' [b, a] = .ok notBelow ∧ above.Opposes notBelow := by
  simp only [greater, greaterOrEqual, ofComparison]
  cases ha : ctx.evaluate? a with
  | none =>
    cases hb : ctx.evaluate? b with
    | none => exact ⟨_, _, rfl, rfl, rfl, fun hrun => by cases hrun⟩
    | some right => exact ⟨_, _, rfl, rfl, rfl, fun hrun => by cases hrun⟩
  | some left =>
    cases hb : ctx.evaluate? b with
    | none => exact ⟨_, _, rfl, rfl, rfl, fun hrun => by cases hrun⟩
    | some right =>
      refine ⟨_, _, rfl, rfl, rfl, fun _ => ?_⟩
      have hcompare := Decimal.not_lt_iff_le (Context.evaluate?_isFinite hb)
        (Context.evaluate?_isFinite ha)
      by_cases hlt : right < left
      · have hnot : ¬ left ≤ right := fun h => hcompare.2 h hlt
        simp [ordered, hlt, hnot]
      · have hle : left ≤ right := hcompare.1 hlt
        simp [ordered, hlt, hle]

end Check

/-! ## Rules -/

/-- A rule with the formula of a name and arguments. -/
def ValidationRule.calling (rule : ValidationRule) (name : String) (arguments : List String) :
    ValidationRule :=
  { rule with formula := Formula.written name arguments }

theorem ValidationRule.execute_calling {ctx : Context} (rule : ValidationRule) {c : Check}
    (hc : c ∈ Check.standard) {arguments : List String}
    (h : List.Forall₂ (ArgumentKind.Accepts ctx) c.argumentKinds arguments) :
    (rule.calling c.name arguments).execute ctx .standard =
      c.run ctx (rule.calling c.name arguments) arguments :=
  execute_written hc h rfl

/-- `RANGE` is `RATIO_MIN` and `RATIO_MAX` together, `GREATER` is the opposite of `GTE` with the
arguments exchanged, and `EQUALS` is `RECONCILE`. -/
theorem ValidationRule.standard_checks_agree {ctx : Context} {e a b lo hi : String}
    (he : Expr.isValid e ctx.settings.maxDepth = true)
    (ha : Expr.isValid a ctx.settings.maxDepth = true)
    (hb : Expr.isValid b ctx.settings.maxDepth = true)
    (hlo : (textNumber? lo).isSome = true) (hhi : (textNumber? hi).isSome = true)
    (rule : ValidationRule) :
    (∃ within atLeast atMost,
      (rule.calling "RANGE" [e, lo, hi]).execute ctx .standard = .ok within ∧
      (rule.calling "RATIO_MIN" [e, lo]).execute ctx .standard = .ok atLeast ∧
      (rule.calling "RATIO_MAX" [e, hi]).execute ctx .standard = .ok atMost ∧
      within.Joins atLeast atMost) ∧
    (∃ above notBelow,
      (rule.calling "GREATER" [a, b]).execute ctx .standard = .ok above ∧
      (rule.calling "GTE" [b, a]).execute ctx .standard = .ok notBelow ∧
      above.Opposes notBelow) ∧
    ∃ agreement,
      (rule.calling "EQUALS" [a, b]).execute ctx .standard = .ok agreement ∧
      (rule.calling "RECONCILE" [a, b]).execute ctx .standard = .ok agreement := by
  rw [← ArgumentKind.accepts_expression_iff] at he ha hb
  have hlo : ArgumentKind.number.Accepts ctx lo := Option.isSome_iff_exists.1 hlo
  have hhi : ArgumentKind.number.Accepts ctx hi := Option.isSome_iff_exists.1 hhi
  have hab : List.Forall₂ (ArgumentKind.Accepts ctx) [.expression, .expression] [a, b] :=
    .cons ha (.cons hb .nil)
  have hba : List.Forall₂ (ArgumentKind.Accepts ctx) [.expression, .expression] [b, a] :=
    .cons hb (.cons ha .nil)
  refine ⟨?_, ?_, ?_⟩
  · have hwithin := rule.execute_calling (c := .range) (by simp [Check.standard])
      (.cons he (.cons hlo (.cons hhi .nil)))
    have hatLeast := rule.execute_calling (c := .ratioMin) (by simp [Check.standard])
      (.cons he (.cons hlo .nil))
    have hatMost := rule.execute_calling (c := .ratioMax) (by simp [Check.standard])
      (.cons he (.cons hhi .nil))
    obtain ⟨within, atLeast, atMost, hrange, hmin, hmax, hjoins⟩ :=
      Check.inRange_joins (rule.calling "RANGE" [e, lo, hi]) (rule.calling "RATIO_MIN" [e, lo])
        (rule.calling "RATIO_MAX" [e, hi]) e hlo hhi
    exact ⟨within, atLeast, atMost, hwithin.trans hrange, hatLeast.trans hmin, hatMost.trans hmax,
      hjoins⟩
  · have habove := rule.execute_calling (c := .greater) (by simp [Check.standard]) hab
    have hnotBelow := rule.execute_calling (c := .greaterOrEqual) (by simp [Check.standard]) hba
    obtain ⟨above, notBelow, hgreater, hgte, hopposes⟩ :=
      Check.greater_opposes (rule.calling "GREATER" [a, b]) (rule.calling "GTE" [b, a]) a b
    exact ⟨above, notBelow, habove.trans hgreater, hnotBelow.trans hgte, hopposes⟩
  · have hequals := rule.execute_calling (c := .equals) (by simp [Check.standard]) hab
    have hreconcile := rule.execute_calling (c := .reconcile) (by simp [Check.standard]) hab
    obtain ⟨agreement, hagreement⟩ := (rule.calling "EQUALS" [a, b]).exists_outcome ctx
    exact ⟨agreement, hagreement, (hreconcile.trans hequals.symm).trans hagreement⟩

/-- The gain equals the costs, so that their ratio is at the upper bound. -/
theorem ValidationRule.standard_checks_at_bound :
    Expr.isValid "gain / costs" 32 = true ∧ Expr.isValid "gain" 32 = true ∧
      Expr.isValid " costs" 32 = true ∧ (textNumber? "-1").isSome = true ∧
      (textNumber? " 1.0").isSome = true ∧
    ∃ readings within atLeast atMost above notBelow agreement,
      Readings.ofEntries [("gain", .int 120), ("costs", .text "120")] = .ok readings ∧
      (({ id := "r", formula := "" } : ValidationRule).calling "RANGE"
        ["gain / costs", "-1", " 1.0"]).execute { readings } .standard = .ok within ∧
      (({ id := "r", formula := "" } : ValidationRule).calling "RATIO_MIN"
        ["gain / costs", "-1"]).execute { readings } .standard = .ok atLeast ∧
      (({ id := "r", formula := "" } : ValidationRule).calling "RATIO_MAX"
        ["gain / costs", " 1.0"]).execute { readings } .standard = .ok atMost ∧
      within.Joins atLeast atMost ∧
      (({ id := "r", formula := "" } : ValidationRule).calling "GREATER"
        ["gain", " costs"]).execute { readings } .standard = .ok above ∧
      (({ id := "r", formula := "" } : ValidationRule).calling "GTE"
        [" costs", "gain"]).execute { readings } .standard = .ok notBelow ∧
      above.Opposes notBelow ∧
      (({ id := "r", formula := "" } : ValidationRule).calling "EQUALS"
        ["gain", " costs"]).execute { readings } .standard = .ok agreement ∧
      (({ id := "r", formula := "" } : ValidationRule).calling "RECONCILE"
        ["gain", " costs"]).execute { readings } .standard = .ok agreement := by
  have he : Expr.isValid "gain / costs" 32 = true := by decide +kernel
  have ha : Expr.isValid "gain" 32 = true := by decide +kernel
  have hb : Expr.isValid " costs" 32 = true := by decide +kernel
  have hlo : (textNumber? "-1").isSome = true := by decide
  have hhi : (textNumber? " 1.0").isSome = true := by decide
  obtain ⟨readings, hreadings⟩ := exists_eq_ok
    (x := Readings.ofEntries [("gain", .int 120), ("costs", .text "120")]) (by decide)
  let ctx : Context := { readings }
  have hdepth : ctx.settings.maxDepth = 32 := rfl
  rw [← hdepth] at he ha hb
  obtain ⟨⟨within, atLeast, atMost, hwithin, hatLeast, hatMost, hjoins⟩,
      ⟨above, notBelow, habove, hnotBelow, hopposes⟩, agreement, hequals, hreconcile⟩ :=
    ValidationRule.standard_checks_agree he ha hb hlo hhi { id := "r", formula := "" }
  exact ⟨he, ha, hb, hlo, hhi, readings, within, atLeast, atMost, above, notBelow, agreement,
    hreadings, hwithin, hatLeast, hatMost, hjoins, habove, hnotBelow, hopposes, hequals, hreconcile⟩

end Scorecard
