import Scorecard.Proofs.Check.Outcome
import Scorecard.Proofs.Validation

/-!
# A run over many rules

Validation is made of runs of single rules that know nothing of each other. The run of two lists of
rules one after the other is the run of the first and then that of the second, and the report of a
run follows from the outcomes of its active rules: every rule is counted once, every failure is an
issue, and every formula that could not be run is a warning, all in the order of the rules.
-/

namespace Scorecard

/-! ## Runs one after the other -/

instance : Add Counts where
  add a b := ⟨a.passed + b.passed, a.failed + b.failed, a.skipped + b.skipped,
    a.inactive + b.inactive⟩

instance : Append ValidationRun where
  append a b := ⟨a.issues ++ b.issues, a.outcomes ++ b.outcomes, a.warnings ++ b.warnings,
    a.counts + b.counts⟩

namespace Counts

@[simp]
theorem add_passed (a b : Counts) : (a + b).passed = a.passed + b.passed :=
  rfl

@[simp]
theorem add_failed (a b : Counts) : (a + b).failed = a.failed + b.failed :=
  rfl

@[simp]
theorem add_skipped (a b : Counts) : (a + b).skipped = a.skipped + b.skipped :=
  rfl

@[simp]
theorem add_inactive (a b : Counts) : (a + b).inactive = a.inactive + b.inactive :=
  rfl

theorem add_assoc (a b c : Counts) : a + b + c = a + (b + c) := by
  cases a
  cases b
  cases c
  change Counts.mk _ _ _ _ = Counts.mk _ _ _ _
  simp [Nat.add_assoc]

end Counts

theorem RuleResult.count_eq_add (c : Counts) (r : RuleResult) : count c r = c + count {} r := by
  cases r with
  | inactive => rfl
  | clear rule outcome =>
    rw [count, count]
    by_cases hskipped : outcome.skipped = true
    · rw [if_pos hskipped, if_pos hskipped]
      rfl
    · rw [if_neg hskipped, if_neg hskipped]
      rfl
  | failed rule outcome issue => rfl

theorem RuleResult.foldl_count (results : List RuleResult) (c : Counts) :
    results.foldl count c = c + results.foldl count {} := by
  induction results generalizing c with
  | nil => rfl
  | cons r results ih =>
    rw [List.foldl_cons, List.foldl_cons, ih, ih (count {} r), count_eq_add c, Counts.add_assoc]

theorem ValidationRun.ofResults_append (results results' : List RuleResult) :
    ofResults (results ++ results') = ofResults results ++ ofResults results' := by
  unfold ofResults
  rw [List.filterMap_append, List.filterMap_append, List.filterMap_append, List.foldl_append,
    RuleResult.foldl_count]
  rfl

theorem selectRules_append (rules rules' : List ValidationRule) (ids : Option (List String)) :
    selectRules (rules ++ rules') ids = selectRules rules ids ++ selectRules rules' ids := by
  cases ids with
  | none => rfl
  | some ids => exact List.filter_append _ _

/-- The rules of one list do not matter to those of another. -/
theorem validate_append (rules rules' : List ValidationRule) (ctx : Context)
    (ids : Option (List String)) (registry : Registry) :
    validate (rules ++ rules') ctx ids registry = (do
      let run ← validate rules ctx ids registry
      let run' ← validate rules' ctx ids registry
      return run ++ run') := by
  unfold validate
  rw [selectRules_append, List.mapM_append]
  simp only [bind_assoc, pure_bind, ValidationRun.ofResults_append]

/-! ## One rule -/

/-- An outcome that is nothing to complain of, and no skip. -/
def Outcome.isPass (outcome : Outcome) : Bool :=
  !outcome.skipped && outcome.passed

/-- An issue tells of a failure: it is the rule's issue, and it shows the rule and the figures. -/
structure Issue.TellsOf (ctx : Context) (rule : ValidationRule) (outcome : Outcome)
    (issue : Issue) : Prop where
  /-- The issue is the one that the rule renders. -/
  rendered : rule.issue outcome ctx = .ok issue
  /-- The issue names the rule. -/
  ruleId : issue.ruleId = rule.id
  /-- The issue has the severity of the rule. -/
  severity : issue.severity = rule.severity
  /-- The issue lists the KPIs of the rule. -/
  affectedKpis : issue.affectedKpis = rule.affectedKpis
  /-- The figure that was found is shown. -/
  actual : issue.actual = outcome.actual
  /-- The figure that was wanted is shown. -/
  expected : issue.expected = outcome.expected
  /-- The variance is shown. -/
  variance : issue.variance = outcome.variance

theorem ValidationRule.issue_tellsOf {rule : ValidationRule} {outcome : Outcome} {ctx : Context}
    {issue : Issue} (h : rule.issue outcome ctx = .ok issue) : issue.TellsOf ctx rule outcome := by
  obtain ⟨fields, -, hissue⟩ := bind_eq_ok_iff.1 h
  obtain rfl := Except.ok.inj hissue
  exact ⟨h, rfl, rfl, rfl, rfl, rfl, rfl⟩

/-! ## What a run reports -/

/-- What a run says of the selected rules, where `ran` are those that are active, each with its
outcome. -/
structure ValidationRun.Reports (run : ValidationRun) (ctx : Context) (registry : Registry)
    (rules : List ValidationRule) (ran : List (ValidationRule × Outcome)) : Prop where
  /-- The active rules have run, in order. -/
  active : ran.map Prod.fst = rules.filter (·.active)
  /-- Each of them has the outcome of its formula. -/
  executed : ∀ p ∈ ran, p.1.execute ctx registry = .ok p.2
  /-- The outcomes are listed by rule, in order. -/
  outcomes : run.outcomes = ran.map fun (rule, outcome) => (rule.id, outcome)
  /-- There is one issue for each failure, in order. -/
  issues : List.Forall₂ (fun p issue => Issue.TellsOf ctx p.1 p.2 issue)
    (ran.filter (·.2.isFailure)) run.issues
  /-- There is one warning for each formula that cannot be run, in order. -/
  warnings : run.warnings = ran.filterMap fun (rule, outcome) =>
    outcome.formulaError.map fun e => ⟨.validation, rule.id, .formula e⟩
  /-- The passes are counted without the skips. -/
  passed : run.counts.passed = ran.countP (·.2.isPass)
  /-- The failures are counted. -/
  failed : run.counts.failed = ran.countP (·.2.isFailure)
  /-- The skips are counted. -/
  skipped : run.counts.skipped = ran.countP (·.2.skipped)
  /-- The rules that are not active are counted. -/
  inactive : run.counts.inactive = rules.countP (!·.active)

namespace ValidationRun

variable {ctx : Context} {registry : Registry}

theorem Reports.append {run run' : ValidationRun} {rules rules' : List ValidationRule}
    {ran ran' : List (ValidationRule × Outcome)} (h : run.Reports ctx registry rules ran)
    (h' : run'.Reports ctx registry rules' ran') :
    (run ++ run').Reports ctx registry (rules ++ rules') (ran ++ ran') where
  active := by rw [List.map_append, List.filter_append, h.active, h'.active]
  executed p hp := (List.mem_append.1 hp).elim (h.executed p) (h'.executed p)
  outcomes := by
    rw [List.map_append, ← h.outcomes, ← h'.outcomes]
    rfl
  issues := by
    rw [List.filter_append]
    exact List.rel_append h.issues h'.issues
  warnings := by
    rw [List.filterMap_append, ← h.warnings, ← h'.warnings]
    rfl
  passed := by
    rw [List.countP_append, ← h.passed, ← h'.passed]
    rfl
  failed := by
    rw [List.countP_append, ← h.failed, ← h'.failed]
    rfl
  skipped := by
    rw [List.countP_append, ← h.skipped, ← h'.skipped]
    rfl
  inactive := by
    rw [List.countP_append, ← h.inactive, ← h'.inactive]
    rfl

theorem Reports.nil : (ofResults []).Reports ctx registry [] [] where
  active := rfl
  executed _ hp := absurd hp List.not_mem_nil
  outcomes := rfl
  issues := .nil
  warnings := rfl
  passed := rfl
  failed := rfl
  skipped := rfl
  inactive := rfl

theorem Reports.inactive_rule {rule : ValidationRule} (hactive : rule.active = false) :
    (ofResults [.inactive]).Reports ctx registry [rule] [] where
  active := by simp [hactive]
  executed _ hp := absurd hp List.not_mem_nil
  outcomes := rfl
  issues := .nil
  warnings := rfl
  passed := rfl
  failed := rfl
  skipped := rfl
  inactive := by simp [hactive, ofResults, RuleResult.count]

theorem Reports.clear_rule {rule : ValidationRule} {outcome : Outcome}
    (hactive : rule.active = true) (houtcome : rule.execute ctx registry = .ok outcome)
    (hclear : outcome.isFailure = false) :
    (ofResults [.clear rule outcome]).Reports ctx registry [rule] [(rule, outcome)] where
  active := by simp [hactive]
  executed := by simpa using houtcome
  outcomes := rfl
  issues := by
    rw [List.filter_cons_of_neg (by simpa using hclear)]
    exact .nil
  warnings := by
    cases herror : outcome.formulaError <;>
      simp [ofResults, RuleResult.warning?, RuleResult.outcome?, herror]
  passed := by
    cases hskipped : outcome.skipped with
    | true => simp [ofResults, RuleResult.count, Outcome.isPass, hskipped]
    | false =>
      have hpassed : outcome.passed = true := by
        simpa [Outcome.isFailure, hskipped] using hclear
      simp [ofResults, RuleResult.count, Outcome.isPass, hskipped, hpassed]
  failed := by
    cases hskipped : outcome.skipped <;> simp [ofResults, RuleResult.count, hskipped, hclear]
  skipped := by
    cases hskipped : outcome.skipped <;> simp [ofResults, RuleResult.count, hskipped]
  inactive := by
    cases hskipped : outcome.skipped <;> simp [ofResults, RuleResult.count, hskipped, hactive]

theorem Reports.failed_rule {rule : ValidationRule} {outcome : Outcome} {issue : Issue}
    (hactive : rule.active = true) (houtcome : rule.execute ctx registry = .ok outcome)
    (hfailure : outcome.isFailure = true) (hissue : rule.issue outcome ctx = .ok issue) :
    (ofResults [.failed rule outcome issue]).Reports ctx registry [rule] [(rule, outcome)] where
  active := by simp [hactive]
  executed := by simpa using houtcome
  outcomes := rfl
  issues := by
    rw [List.filter_cons_of_pos (by simpa using hfailure)]
    exact .cons (ValidationRule.issue_tellsOf hissue) .nil
  warnings := by
    cases herror : outcome.formulaError <;>
      simp [ofResults, RuleResult.warning?, RuleResult.outcome?, herror]
  passed := by
    obtain ⟨-, hpassed⟩ := Outcome.isFailure_iff.1 hfailure
    simp [ofResults, RuleResult.count, Outcome.isPass, hpassed]
  failed := by simp [ofResults, RuleResult.count, hfailure]
  skipped := by
    obtain ⟨hskipped, -⟩ := Outcome.isFailure_iff.1 hfailure
    simp [ofResults, RuleResult.count, hskipped]
  inactive := by simp [ofResults, RuleResult.count, hactive]

/-- The report of rules that were run one by one. -/
theorem Reports.of_results {rules : List ValidationRule} {results : List RuleResult}
    (h : List.Forall₂ (fun rule result => rule.result ctx registry = .ok result) rules results) :
    ∃ ran, (ofResults results).Reports ctx registry rules ran := by
  induction h with
  | nil => exact ⟨[], .nil⟩
  | @cons rule result rules results hresult _ ih =>
    obtain ⟨ran, hran⟩ := ih
    have hcons := ofResults_append [result] results
    rw [List.singleton_append] at hcons
    rw [hcons]
    rcases ValidationRule.result_eq_ok_iff.1 hresult with
      ⟨hactive, rfl⟩ | ⟨outcome, hactive, houtcome, hend⟩
    · exact ⟨_, (Reports.inactive_rule hactive).append hran⟩
    · rcases hend with ⟨hclear, rfl⟩ | ⟨hfailure, issue, hissue, rfl⟩
      · exact ⟨_, (Reports.clear_rule hactive houtcome hclear).append hran⟩
      · exact ⟨_, (Reports.failed_rule hactive houtcome hfailure hissue).append hran⟩

/-- An outcome is a pass, a failure or a skip, and never two of these. -/
theorem length_eq_countP_ends (ran : List (ValidationRule × Outcome)) :
    ran.length =
      ran.countP (·.2.isPass) + ran.countP (·.2.isFailure) + ran.countP (·.2.skipped) := by
  induction ran with
  | nil => rfl
  | cons p ran ih =>
    rw [List.length_cons, List.countP_cons, List.countP_cons, List.countP_cons, ih]
    have hone : (if p.2.isPass then 1 else 0) + (if p.2.isFailure then 1 else 0) +
        (if p.2.skipped then 1 else 0) = 1 := by
      cases hskipped : p.2.skipped <;> cases hpassed : p.2.passed <;>
        simp [Outcome.isPass, Outcome.isFailure, hskipped, hpassed]
    omega

/-- Every rule is counted once. -/
theorem Reports.total {run : ValidationRun} {rules : List ValidationRule}
    {ran : List (ValidationRule × Outcome)} (h : run.Reports ctx registry rules ran) :
    run.counts.passed + run.counts.failed + run.counts.skipped + run.counts.inactive =
      rules.length := by
  have hran := length_eq_countP_ends ran
  have hactive : ran.length = rules.countP (·.active) := by
    rw [List.countP_eq_length_filter, ← h.active, List.length_map]
  have hrules : rules.length = rules.countP (·.active) + rules.countP (!·.active) := by
    simpa using List.length_eq_countP_add_countP fun rule : ValidationRule => rule.active
  rw [h.passed, h.failed, h.skipped, h.inactive]
  omega

end ValidationRun

/-! ## All selected rules -/

/-- A rule whose failure, if it is one, can be told. -/
def ValidationRule.Renders (rule : ValidationRule) (ctx : Context) : Prop :=
  ∀ outcome, rule.execute ctx .standard = .ok outcome → outcome.isFailure = true →
    ∃ issue, rule.issue outcome ctx = .ok issue

/-- Rendering a failure is the only thing that can stop a rule. -/
theorem ValidationRule.exists_result_iff {rule : ValidationRule} {ctx : Context} :
    (∃ result, rule.result ctx .standard = .ok result) ↔
      (rule.active = true → rule.Renders ctx) := by
  constructor
  · rintro ⟨result, hresult⟩ hactive outcome houtcome hfailure
    rcases result_eq_ok_iff.1 hresult with ⟨hinactive, -⟩ | ⟨outcome', -, houtcome', hend⟩
    · rw [hactive] at hinactive
      cases hinactive
    · obtain rfl := Except.ok.inj (houtcome.symm.trans houtcome')
      rcases hend with ⟨hclear, -⟩ | ⟨-, issue, hissue, -⟩
      · rw [hfailure] at hclear
        cases hclear
      · exact ⟨issue, hissue⟩
  · intro h
    cases hactive : rule.active with
    | false => exact ⟨.inactive, result_eq_ok_iff.2 (.inl ⟨hactive, rfl⟩)⟩
    | true =>
      obtain ⟨outcome, houtcome⟩ := rule.exists_outcome ctx
      cases hfailure : outcome.isFailure with
      | false =>
        refine ⟨.clear rule outcome, ?_⟩
        exact result_eq_ok_iff.2 (.inr ⟨outcome, hactive, houtcome, .inl ⟨hfailure, rfl⟩⟩)
      | true =>
        obtain ⟨issue, hissue⟩ := h hactive outcome houtcome hfailure
        refine ⟨.failed rule outcome issue, ?_⟩
        exact result_eq_ok_iff.2
          (.inr ⟨outcome, hactive, houtcome, .inr ⟨hfailure, issue, hissue, rfl⟩⟩)

theorem exists_validate_iff {rules : List ValidationRule} {ctx : Context}
    {ids : Option (List String)} :
    (∃ run, validate rules ctx ids .standard = .ok run) ↔
      ∀ rule ∈ selectRules rules ids, rule.active = true → rule.Renders ctx := by
  constructor
  · rintro ⟨run, hrun⟩ rule hrule
    obtain ⟨results, hresults, -⟩ := bind_eq_ok_iff.1 hrun
    exact ValidationRule.exists_result_iff.1 (exists_of_mapM_eq_ok hresults hrule)
  · intro h
    obtain ⟨results, hresults⟩ := exists_mapM_eq_ok fun rule hrule =>
      ValidationRule.exists_result_iff.2 (h rule hrule)
    exact ⟨.ofResults results, bind_eq_ok_iff.2 ⟨results, hresults, rfl⟩⟩

/-- Every run reports the selected rules. -/
theorem exists_reports {rules : List ValidationRule} {ctx : Context} {ids : Option (List String)}
    {registry : Registry} {run : ValidationRun} (h : validate rules ctx ids registry = .ok run) :
    ∃ ran, run.Reports ctx registry (selectRules rules ids) ran := by
  obtain ⟨results, hresults, h⟩ := bind_eq_ok_iff.1 h
  obtain rfl := Except.ok.inj h
  exact ValidationRun.Reports.of_results (mapM_eq_ok_iff.1 hresults)

/-- A run over many rules is put together from runs over parts of them, and one over the rules with
certain ids is the run over these rules. Unless a failure cannot be rendered there is a run, and it
reports exactly what the selected rules come to, each of which it counts once. -/
theorem validate_combines_rules (rules rules' : List ValidationRule) (ctx : Context)
    (ids : Option (List String)) (registry : Registry) :
    (validate (rules ++ rules') ctx ids registry = do
      let run ← validate rules ctx ids registry
      let run' ← validate rules' ctx ids registry
      return run ++ run') ∧
    (∀ names : List String, validate rules ctx (some names) registry =
      validate (rules.filter fun rule => rule.id ∈ names) ctx none registry) ∧
    ((∃ run, validate rules ctx ids .standard = .ok run) ↔
      ∀ rule ∈ selectRules rules ids, rule.active = true → rule.Renders ctx) ∧
    ∀ run, validate rules ctx ids registry = .ok run →
      (∃ ran, run.Reports ctx registry (selectRules rules ids) ran) ∧
      run.counts.passed + run.counts.failed + run.counts.skipped + run.counts.inactive =
        (selectRules rules ids).length := by
  refine ⟨validate_append rules rules' ctx ids registry, fun names => ?_, exists_validate_iff, ?_⟩
  · unfold validate selectRules
    simp only [List.contains_eq_mem]
  · intro run hrun
    obtain ⟨ran, hran⟩ := exists_reports hrun
    exact ⟨⟨ran, hran⟩, hran.total⟩

end Scorecard
