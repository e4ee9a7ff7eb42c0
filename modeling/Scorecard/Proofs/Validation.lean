import Scorecard.Validation
import Scorecard.Proofs.Check.Standard

/-!
# Validation

The formula of a rule and the readings matter to validation only through the outcome of the rule:
if two lists of rules come to the same outcomes and agree in all but their formulas, everything
that validation reports is the same.
-/

namespace Scorecard

/-- Two results that look the same from outside: nothing shows the formula of the rule. -/
structure RuleResult.Alike (a b : RuleResult) : Prop where
  /-- Both have one outcome, or neither has any. -/
  outcome : a.outcome? = b.outcome?
  /-- Both have one issue, or neither has any. -/
  issue : a.issue? = b.issue?
  /-- Both add the same to every count. -/
  count : ∀ c, count c a = count c b

theorem RuleResult.Alike.warning {a b : RuleResult} (h : a.Alike b) : a.warning? = b.warning? := by
  rw [warning?, warning?, h.outcome]

/-- An outcome that is something to complain of. -/
def Outcome.isFailure (outcome : Outcome) : Bool :=
  !outcome.skipped && !outcome.passed

theorem Outcome.isFailure_iff {outcome : Outcome} :
    outcome.isFailure = true ↔ outcome.skipped = false ∧ outcome.passed = false := by
  rw [isFailure, Bool.and_eq_true, Bool.not_eq_true', Bool.not_eq_true']

theorem Outcome.isFailure_eq_not (outcome : Outcome) :
    outcome.isFailure = !(outcome.skipped || outcome.passed) :=
  (Bool.not_or _ _).symm

/-- What a rule can come to: it is not active; or it is run, and its outcome is a failure, with an
issue, or is none. -/
theorem ValidationRule.result_eq_ok_iff {rule : ValidationRule} {ctx : Context}
    {registry : Registry} {result : RuleResult} :
    rule.result ctx registry = .ok result ↔
      (rule.active = false ∧ result = .inactive) ∨
      ∃ outcome, rule.active = true ∧ rule.execute ctx registry = .ok outcome ∧
        ((outcome.isFailure = false ∧ result = .clear rule outcome) ∨
          outcome.isFailure = true ∧ ∃ issue, rule.issue outcome ctx = .ok issue ∧
            result = .failed rule outcome issue) := by
  unfold ValidationRule.result
  constructor
  · intro h
    by_cases hactive : (!rule.active) = true
    · rw [if_pos hactive] at h
      exact .inl ⟨by simpa using hactive, (Except.ok.inj h).symm⟩
    · rw [if_neg hactive] at h
      obtain ⟨outcome, houtcome, h⟩ := bind_eq_ok_iff.1 h
      refine .inr ⟨outcome, by simpa using hactive, houtcome, ?_⟩
      by_cases hclear : (outcome.skipped || outcome.passed) = true
      · rw [if_pos hclear] at h
        exact .inl ⟨by rw [outcome.isFailure_eq_not, hclear, Bool.not_true],
          (Except.ok.inj h).symm⟩
      · rw [if_neg hclear] at h
        obtain ⟨issue, hissue, h⟩ := bind_eq_ok_iff.1 h
        exact .inr ⟨by rw [outcome.isFailure_eq_not, Bool.eq_false_iff.2 hclear, Bool.not_false],
          issue, hissue, (Except.ok.inj h).symm⟩
  · rintro (⟨hactive, rfl⟩ | ⟨outcome, hactive, houtcome, hend⟩)
    · rw [hactive]
      rfl
    · rw [hactive, Bool.not_true, if_neg Bool.false_ne_true]
      refine bind_eq_ok_iff.2 ⟨outcome, houtcome, ?_⟩
      rw [outcome.isFailure_eq_not, Bool.not_eq_false', Bool.not_eq_true'] at hend
      rcases hend with ⟨hclear, rfl⟩ | ⟨hfailure, issue, hissue, rfl⟩
      · exact if_pos hclear
      · rw [if_neg (Bool.eq_false_iff.1 hfailure)]
        exact bind_eq_ok_iff.2 ⟨issue, hissue, rfl⟩

/-- The formula and the readings do not matter to a rule beyond its outcome. -/
theorem ValidationRule.result_congr {rule : ValidationRule} {formula : String} {ctx : Context}
    {readings : Readings} {registry : Registry}
    (hexecute : ({ rule with formula } : ValidationRule).execute { ctx with readings } registry =
      rule.execute ctx registry)
    {a : RuleResult} (h : rule.result ctx registry = .ok a) :
    ∃ b, ({ rule with formula } : ValidationRule).result { ctx with readings } registry = .ok b ∧
      a.Alike b := by
  rcases result_eq_ok_iff.1 h with ⟨hactive, rfl⟩ | ⟨outcome, hactive, houtcome, hend⟩
  · exact ⟨.inactive, result_eq_ok_iff.2 (.inl ⟨hactive, rfl⟩), rfl, rfl, fun _ => rfl⟩
  · have houtcome' := hexecute.trans houtcome
    rcases hend with ⟨hclear, rfl⟩ | ⟨hfailure, issue, hissue, rfl⟩
    · refine ⟨.clear { rule with formula } outcome, ?_, rfl, rfl, fun _ => rfl⟩
      exact result_eq_ok_iff.2 (.inr ⟨outcome, hactive, houtcome', .inl ⟨hclear, rfl⟩⟩)
    · refine ⟨.failed { rule with formula } outcome issue, ?_, rfl, rfl, fun _ => rfl⟩
      exact result_eq_ok_iff.2
        (.inr ⟨outcome, hactive, houtcome', .inr ⟨hfailure, issue, hissue, rfl⟩⟩)

theorem ValidationRun.ofResults_congr {results results' : List RuleResult}
    (h : List.Forall₂ RuleResult.Alike results results') :
    ofResults results = ofResults results' := by
  have hcounts (c : Counts) :
      results.foldl RuleResult.count c = results'.foldl RuleResult.count c := by
    induction h generalizing c with
    | nil => rfl
    | cons hab _ ih => rw [List.foldl_cons, List.foldl_cons, hab.count, ih]
  rw [ofResults, ofResults, hcounts, filterMap_congr_forall₂ h fun _ _ h => h.issue,
    filterMap_congr_forall₂ h fun _ _ h => h.outcome,
    filterMap_congr_forall₂ h fun _ _ h => h.warning]

/-- Rules that differ in nothing but their formulas, and come to the same outcome. -/
def ValidationRule.SameOutcome (ctx ctx' : Context) (rule rule' : ValidationRule) : Prop :=
  ∃ formula, rule' = { rule with formula } ∧
    rule'.execute ctx' .standard = rule.execute ctx .standard

/-- Validation reports the same of rules that come to the same outcomes. -/
theorem validate_congr {rules rules' : List ValidationRule} {ctx : Context} {readings : Readings}
    (h : List.Forall₂ (ValidationRule.SameOutcome ctx { ctx with readings }) rules rules')
    {ids : Option (List String)} {run : ValidationRun}
    (hrun : validate rules ctx ids .standard = .ok run) :
    validate rules' { ctx with readings } ids .standard = .ok run := by
  have hselect : List.Forall₂ (ValidationRule.SameOutcome ctx { ctx with readings })
      (selectRules rules ids) (selectRules rules' ids) := by
    cases ids with
    | none => exact h
    | some ids =>
      refine List.rel_filter ?_ h
      rintro rule _ ⟨formula, rfl, -⟩
      rfl
  obtain ⟨results, hresults, hrun⟩ := bind_eq_ok_iff.1 hrun
  obtain rfl := Except.ok.inj hrun
  have hstep : ∀ rule rule' a,
      ValidationRule.SameOutcome ctx { ctx with readings } rule rule' →
      rule.result ctx .standard = .ok a →
      ∃ b, rule'.result { ctx with readings } .standard = .ok b ∧ a.Alike b := by
    rintro rule _ a ⟨formula, rfl, hexecute⟩ ha
    exact ValidationRule.result_congr hexecute ha
  obtain ⟨results', hresults', halike⟩ := mapM_forall₂ hselect hstep hresults
  rw [ValidationRun.ofResults_congr halike]
  exact bind_eq_ok_iff.2 ⟨results', hresults', rfl⟩

end Scorecard
