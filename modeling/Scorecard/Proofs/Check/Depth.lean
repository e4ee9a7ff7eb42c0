import Mathlib.Data.List.Zip
import Scorecard.Proofs.Check.Outcome
import Scorecard.Proofs.Expr.Depth

/-!
# Rules under a higher depth limit

A formula that is accepted under a limit on nesting is accepted under every higher one, and its
arguments then stand for the same figures. So raising the limit changes the outcome of no rule but
those whose formulas could not be run.
-/

namespace Scorecard

/-- A context with another limit on nesting. -/
def Context.withMaxDepth (ctx : Context) (limit : Int) : Context :=
  { ctx with settings := { ctx.settings with maxDepth := limit } }

section Raised

variable {limit limit' : Int}

theorem Formula.argumentError?_of_le (h : limit ≤ limit') {c : Check} {name text : String}
    {kind : ArgumentKind} (hnone : argumentError? limit c name kind text = none) :
    argumentError? limit' c name kind text = none := by
  cases kind with
  | expression =>
    have hvalid : Expr.isValid text limit = true := by simpa [argumentError?] using hnone
    simp [argumentError?, Expr.isValid_of_le h hvalid]
  | number => exact hnone
  | other name => rfl

theorem Formula.firstError?_of_le (h : limit ≤ limit') {c : Check} {names : List String}
    {kinds : List ArgumentKind} {texts : List String}
    (hnone : firstError? limit c names kinds texts = none) :
    firstError? limit' c names kinds texts = none := by
  induction names generalizing kinds texts with
  | nil => rfl
  | cons name names ih =>
    cases kinds with
    | nil => rfl
    | cons kind kinds =>
      cases texts with
      | nil => rfl
      | cons text texts =>
        obtain ⟨hfirst, hrest⟩ := firstError?_cons_eq_none_iff.1 hnone
        exact firstError?_cons_eq_none_iff.2 ⟨argumentError?_of_le h hfirst, ih hrest⟩

/-- An accepted formula is accepted under a higher limit, with the same check and arguments. -/
theorem Formula.resolve_of_le (h : limit ≤ limit') {registry : Registry} {formula : String}
    {c : Check} {arguments : List String}
    (hok : resolve registry limit formula = .ok (c, arguments)) :
    resolve registry limit' formula = .ok (c, arguments) := by
  obtain ⟨hname, hfind, harguments, hlength, hfirst⟩ := resolve_eq_ok_iff.1 hok
  exact resolve_eq_ok_iff.2 ⟨hname, hfind, harguments, hlength, firstError?_of_le h hfirst⟩

variable {ctx : Context}

theorem ArgumentKind.Accepts.read?_of_le (h : limit ≤ limit') {kind : ArgumentKind} {text : String}
    (haccepts : kind.Accepts (ctx.withMaxDepth limit) text) :
    kind.read? (ctx.withMaxDepth limit) text = kind.read? (ctx.withMaxDepth limit') text := by
  cases kind with
  | expression =>
    have hvalid : Expr.isValid text limit = true := accepts_expression_iff.1 haccepts
    exact (Expr.evaluate?_of_le h hvalid ctx.readings.value?).symm
  | number => rfl
  | other name => rfl

/-- A rule whose formula can be run comes to the same outcome under a higher limit. -/
theorem ValidationRule.execute_of_le (h : limit ≤ limit') {rule : ValidationRule}
    {outcome : Outcome} (hexecute : rule.execute (ctx.withMaxDepth limit) .standard = .ok outcome)
    (hrun : outcome.formulaError = none) :
    rule.execute (ctx.withMaxDepth limit') .standard = .ok outcome := by
  rcases rule.execute_cases (ctx.withMaxDepth limit) with
    ⟨e, -, hmalformed⟩ | ⟨c, arguments, _, hresolve, haccepts, -, -, -⟩
  · rw [hmalformed] at hexecute
    obtain rfl := Except.ok.inj hexecute
    cases hrun
  · have hresolve' : Formula.resolve .standard limit' rule.formula = .ok (c, arguments) :=
      Formula.resolve_of_le h hresolve
    have hread : c.read (ctx.withMaxDepth limit) arguments =
        c.read (ctx.withMaxDepth limit') arguments :=
      List.zipWith_congr _ _ _ _ (haccepts.imp fun _ _ hone => hone.read?_of_le h)
    have hsame : rule.execute (ctx.withMaxDepth limit) .standard =
        rule.execute (ctx.withMaxDepth limit') .standard :=
      execute_congr rfl hresolve hresolve' hread
    rw [← hsame, hexecute]

/-- Under a higher limit the texts that are parsed have the same trees, a text that is refused for
anything but its depth is refused for the same reason, and the rules that could be run have the same
outcomes. -/
theorem ValidationRule.raised_limit_keeps (h : limit ≤ limit') :
    (∀ s e, Expr.parse s limit = .ok e → Expr.parse s limit' = .ok e) ∧
    (∀ s, Expr.parse s limit = .error (.tooDeep limit) ∨
      Expr.parse s limit' = Expr.parse s limit) ∧
    ∀ (rule : ValidationRule) (ctx : Context) (outcome : Outcome),
      rule.execute (ctx.withMaxDepth limit) .standard = .ok outcome →
      outcome.formulaError = none →
      rule.execute (ctx.withMaxDepth limit') .standard = .ok outcome := by
  refine ⟨fun s e => Expr.parse_of_le h, fun s => Expr.parse_widens s h, ?_⟩
  intro rule ctx outcome hexecute hrun
  exact execute_of_le h hexecute hrun

end Raised

/-- The formula nests as deep as a limit of one allows; under a limit of five it says the same. -/
theorem ValidationRule.execute_deeper :
    (1 : Int) ≤ 5 ∧ ∃ e readings outcome,
      Expr.parse "-loss + 2" 1 = .ok e ∧ Expr.parse "-loss + 2" 5 = .ok e ∧
      Readings.ofEntries [("gain", .int 120), ("loss", .text "-90")] = .ok readings ∧
      outcome.formulaError = none ∧ outcome.skipped = false ∧
      ({ id := "r", formula := "GTE:gain:-loss + 2" } : ValidationRule).execute
        (({ readings } : Context).withMaxDepth 1) .standard = .ok outcome ∧
      ({ id := "r", formula := "GTE:gain:-loss + 2" } : ValidationRule).execute
        (({ readings } : Context).withMaxDepth 5) .standard = .ok outcome := by
  let rule : ValidationRule := { id := "r", formula := "GTE:gain:-loss + 2" }
  have hle : (1 : Int) ≤ 5 := by decide
  obtain ⟨hparses, -, hexecutes⟩ := ValidationRule.raised_limit_keeps hle
  obtain ⟨e, hparse⟩ := exists_eq_ok (x := Expr.parse "-loss + 2" 1) (by decide +kernel)
  obtain ⟨readings, hreadings⟩ := exists_eq_ok (x := Readings.ofEntries
    [("gain", .int 120), ("loss", .text "-90")]) (by decide)
  obtain ⟨outcome, houtcome⟩ := rule.exists_outcome (({ readings } : Context).withMaxDepth 1)
  have hcompared : (((Readings.ofEntries [("gain", .int 120), ("loss", .text "-90")]).bind
      fun readings => rule.execute (({ readings } : Context).withMaxDepth 1) .standard).map
        fun outcome => (outcome.formulaError, outcome.skipped)).toOption = some (none, false) := by
    decide +kernel
  rw [hreadings] at hcompared
  obtain ⟨hrun, hskipped⟩ : outcome.formulaError = none ∧ outcome.skipped = false := by
    simpa [Except.bind, Except.map, Except.toOption, houtcome] using hcompared
  exact ⟨hle, e, readings, outcome, hparse, hparses _ _ hparse, hreadings, hrun, hskipped, houtcome,
    hexecutes rule _ outcome houtcome hrun⟩

end Scorecard
