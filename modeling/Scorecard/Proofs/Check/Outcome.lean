import Scorecard.Proofs.Check.Standard

/-!
# The outcome of a rule

The arguments of a formula are looked at twice: when the formula is accepted, and when its check
reads them. Both times they are read in the same way, so what was accepted as an expression has a
tree, and what was accepted as a number is one. A check therefore never meets a bound that is not
there, every rule comes to an outcome, and a failure shows the figures that it is about.
-/

namespace Scorecard

/-! ## Accepted arguments -/

/-- What an accepted argument is: an expression, whose figure is the value of its tree and so is
missing only where that has no value, or a number. -/
def ArgumentKind.Accepts (ctx : Context) : ArgumentKind → String → Prop
  | .expression, text => ∃ e, Expr.parse (Text.trim text) ctx.settings.maxDepth = .ok e ∧
      ctx.evaluate? text = e.value? ctx.readings.value?
  | .number, text => ∃ x, textNumber? text = some x
  | .other _, _ => True

section Accepted

variable {ctx : Context} {c : Check}

theorem ArgumentKind.accepts_expression_iff {text : String} :
    expression.Accepts ctx text ↔ Expr.isValid text ctx.settings.maxDepth = true := by
  unfold Expr.isValid
  constructor
  · rintro ⟨e, hparse, -⟩
    rw [hparse]
  · intro hvalid
    cases hparse : Expr.parse (Text.trim text) ctx.settings.maxDepth with
    | error e => simp [hparse] at hvalid
    | ok e => exact ⟨e, hparse, by rw [Context.evaluate?, Expr.evaluate?, hparse]⟩

theorem Formula.argumentError?_eq_none_iff {name text : String} {kind : ArgumentKind} :
    argumentError? ctx.settings.maxDepth c name kind text = none ↔ kind.Accepts ctx text := by
  cases kind with
  | expression =>
    rw [ArgumentKind.accepts_expression_iff]
    simp [argumentError?]
  | number =>
    rw [ArgumentKind.Accepts, ← Option.ne_none_iff_exists']
    simp [argumentError?]
  | other name => exact iff_of_true rfl trivial

theorem Formula.firstError?_eq_none_iff {names : List String} {kinds : List ArgumentKind}
    {arguments : List String} (hkinds : names.length = kinds.length)
    (harguments : arguments.length = names.length) :
    firstError? ctx.settings.maxDepth c names kinds arguments = none ↔
      List.Forall₂ (ArgumentKind.Accepts ctx) kinds arguments := by
  induction kinds generalizing names arguments with
  | nil =>
    obtain rfl := List.eq_nil_of_length_eq_zero hkinds
    obtain rfl := List.eq_nil_of_length_eq_zero harguments
    exact iff_of_true rfl .nil
  | cons kind kinds ih =>
    obtain ⟨name, names, rfl⟩ := List.exists_cons_of_length_eq_add_one hkinds
    obtain ⟨text, arguments, rfl⟩ := List.exists_cons_of_length_eq_add_one harguments
    rw [firstError?_cons_eq_none_iff, argumentError?_eq_none_iff,
      ih (Nat.succ.inj hkinds) (Nat.succ.inj harguments), List.forall₂_cons]

theorem Check.length_argumentKinds :
    ∀ c ∈ Check.standard, c.argumentNames.length = c.argumentKinds.length := by
  decide

/-- An accepted formula calls a standard check on arguments of the kinds that it wants. -/
theorem Formula.accepts_of_resolve {formula : String} {arguments : List String}
    (h : resolve .standard ctx.settings.maxDepth formula = .ok (c, arguments)) :
    c ∈ Check.standard ∧ List.Forall₂ (ArgumentKind.Accepts ctx) c.argumentKinds arguments := by
  obtain ⟨-, hfind, -, harity, hfirst⟩ := resolve_eq_ok_iff.1 h
  have hc := Registry.mem_standard hfind
  exact ⟨hc, (firstError?_eq_none_iff (Check.length_argumentKinds c hc) harity).1 hfirst⟩

end Accepted

/-! ## Well-formed outcomes -/

namespace Outcome

/-- What an outcome may show. A formula that cannot be run is a skip without figures, a skip is
nothing to complain of, and a failure shows the figure that was found. -/
structure WellFormed (outcome : Outcome) : Prop where
  /-- A formula that cannot be run is a skip without figures. -/
  malformed : outcome.formulaError.isSome → outcome.skipped = true ∧ outcome.actual = none ∧
    outcome.expected = none ∧ outcome.variance = none
  /-- A skip is a pass. -/
  skipped : outcome.skipped = true → outcome.passed = true
  /-- A failure shows the figure that was found. -/
  failed : outcome.passed = false → outcome.actual.isSome

/-- A failure shows the figure that was wanted. -/
def ShowsExpected (outcome : Outcome) : Prop :=
  outcome.passed = false → outcome.expected.isSome

/-- An outcome of figures that were all there. -/
structure Compares (outcome : Outcome) : Prop where
  /-- The formula was run. -/
  formulaError : outcome.formulaError = none
  /-- The outcome is no skip. -/
  skipped : outcome.skipped = false
  /-- The figure that was found is shown. -/
  actual : outcome.actual.isSome
  /-- A failure shows the figure that was wanted. -/
  expected : outcome.ShowsExpected

end Outcome

/-- A check that comes to an outcome, which shows both figures if it is a failure. -/
def Settles (result : Except Fault Outcome) : Prop :=
  ∃ outcome, result = .ok outcome ∧ outcome.WellFormed ∧ outcome.ShowsExpected

theorem settles_skip (actual expected : Option Float) :
    Settles (.ok (.skip actual expected)) := by
  refine ⟨_, rfl, ⟨?_, fun _ => rfl, ?_⟩, ?_⟩
  · intro herror
    simp [Outcome.skip] at herror
  · intro hfailed
    simp [Outcome.skip] at hfailed
  · intro hfailed
    simp [Outcome.skip] at hfailed

theorem Outcome.Compares.settles {outcome : Outcome} (h : outcome.Compares) :
    Settles (.ok outcome) := by
  refine ⟨outcome, rfl, ⟨?_, ?_, fun _ => h.actual⟩, h.expected⟩
  · intro herror
    simp [h.formulaError] at herror
  · intro hskipped
    simp [h.skipped] at hskipped

/-! ## What the standard checks come to -/

namespace Check

variable {ctx : Context} {rule : ValidationRule}

theorem compares_ordered (holds : Float → Float → Bool) (left right : Float) :
    (ordered holds rule left right).Compares :=
  ⟨rfl, rfl, rfl, fun _ => rfl⟩

theorem compares_agreement (left right : Float) : (agreement rule left right).Compares :=
  ⟨rfl, rfl, rfl, fun _ => rfl⟩

theorem compares_between (value low high : Float) : (between value low high).Compares := by
  unfold between
  split
  · exact ⟨rfl, rfl, rfl, fun _ => rfl⟩
  · split
    · exact ⟨rfl, rfl, rfl, fun _ => rfl⟩
    · exact ⟨rfl, rfl, rfl, fun hfailed => by simp at hfailed⟩

theorem ofComparison_settles {compare : ValidationRule → Float → Float → Outcome}
    (hcompare : ∀ left right, (compare rule left right).Compares) (a b : String) :
    Settles (ofComparison compare ctx rule [a, b]) := by
  rw [ofComparison]
  cases ctx.evaluate? a with
  | none => exact settles_skip _ _
  | some left =>
    cases ctx.evaluate? b with
    | none => exact settles_skip _ _
    | some right => exact (hcompare left right).settles

theorem ofBound_settles (rule : ValidationRule) (within : Float → Float → Bool) (expr : String)
    {text : String} (htext : ArgumentKind.number.Accepts ctx text) :
    Settles (ofBound within ctx rule [expr, text]) := by
  obtain ⟨bound, hbound⟩ := htext
  rw [ofBound, hbound]
  cases ctx.evaluate? expr with
  | none => exact settles_skip _ _
  | some value =>
    have hcompares : Outcome.Compares
        { passed := within value bound, actual := some value, expected := some bound,
          variance := some (value - bound) } := ⟨rfl, rfl, rfl, fun _ => rfl⟩
    exact hcompares.settles

theorem inRange_settles (rule : ValidationRule) (expr : String) {lowText highText : String}
    (hlowText : ArgumentKind.number.Accepts ctx lowText)
    (hhighText : ArgumentKind.number.Accepts ctx highText) :
    Settles (inRange ctx rule [expr, lowText, highText]) := by
  obtain ⟨low, hlow⟩ := hlowText
  obtain ⟨high, hhigh⟩ := hhighText
  rw [inRange, hlow, hhigh]
  cases ctx.evaluate? expr with
  | none => exact settles_skip _ _
  | some value => exact (compares_between value low high).settles

/-- The demand fails only where the first figure is there, and then the second one is not. -/
theorem required_ok (ctx : Context) (rule : ValidationRule) (a b : String) :
    ∃ outcome, required ctx rule [a, b] = .ok outcome ∧ outcome.WellFormed := by
  refine ⟨_, rfl, ⟨?_, ?_, ?_⟩⟩
  · intro herror
    simp at herror
  · intro hskipped
    simp at hskipped
  · intro hfailed
    rw [Bool.or_eq_false_iff, Option.isNone_eq_false_iff] at hfailed
    exact hfailed.1

theorem accepts_pair {kind₁ kind₂ : ArgumentKind} {arguments : List String}
    (h : List.Forall₂ (ArgumentKind.Accepts ctx) [kind₁, kind₂] arguments) :
    ∃ a b, arguments = [a, b] ∧ kind₁.Accepts ctx a ∧ kind₂.Accepts ctx b := by
  obtain ⟨a, _, ha, hrest, rfl⟩ := List.forall₂_cons_left_iff.1 h
  obtain ⟨b, _, hb, hnil, rfl⟩ := List.forall₂_cons_left_iff.1 hrest
  obtain rfl := List.forall₂_nil_left_iff.1 hnil
  exact ⟨a, b, rfl, ha, hb⟩

/-- A standard check other than `REQUIRES` settles arguments of the kinds that it wants. -/
theorem run_settles {c : Check} (hc : c ∈ standard) (hname : c.name ≠ "REQUIRES")
    {arguments : List String}
    (h : List.Forall₂ (ArgumentKind.Accepts ctx) c.argumentKinds arguments) :
    Settles (c.run ctx rule arguments) := by
  simp only [standard, List.mem_cons, List.not_mem_nil, or_false] at hc
  rcases hc with rfl | rfl | rfl | rfl | rfl | rfl | rfl | rfl
  · obtain ⟨a, b, rfl, -, -⟩ := accepts_pair h
    exact ofComparison_settles (compares_ordered _) a b
  · obtain ⟨a, b, rfl, -, -⟩ := accepts_pair h
    exact ofComparison_settles (compares_ordered _) a b
  · obtain ⟨a, b, rfl, -, -⟩ := accepts_pair h
    exact ofComparison_settles compares_agreement a b
  · obtain ⟨expr, _, -, hbounds, rfl⟩ := List.forall₂_cons_left_iff.1 h
    obtain ⟨low, high, rfl, hlow, hhigh⟩ := accepts_pair hbounds
    exact inRange_settles rule expr hlow hhigh
  · obtain ⟨expr, bound, rfl, -, hbound⟩ := accepts_pair h
    exact ofBound_settles rule _ expr hbound
  · obtain ⟨expr, bound, rfl, -, hbound⟩ := accepts_pair h
    exact ofBound_settles rule _ expr hbound
  · obtain ⟨a, b, rfl, -, -⟩ := accepts_pair h
    exact ofComparison_settles compares_agreement a b
  · exact absurd rfl hname

/-- A standard check comes to an outcome on arguments of the kinds that it wants. -/
theorem run_ok {c : Check} (hc : c ∈ standard) {arguments : List String}
    (h : List.Forall₂ (ArgumentKind.Accepts ctx) c.argumentKinds arguments) :
    ∃ outcome, c.run ctx rule arguments = .ok outcome ∧ outcome.WellFormed ∧
      (c.name ≠ "REQUIRES" → outcome.ShowsExpected) := by
  by_cases hname : c.name = "REQUIRES"
  · have hrequires : requires ∈ standard := by simp [standard]
    obtain rfl : c = requires := name_injOn hc hrequires hname
    obtain ⟨a, b, rfl, -, -⟩ := accepts_pair h
    obtain ⟨outcome, hrun, hwell⟩ := required_ok ctx rule a b
    exact ⟨outcome, hrun, hwell, fun hother => absurd hname hother⟩
  · obtain ⟨outcome, hrun, hwell, hexpected⟩ := run_settles hc hname h
    exact ⟨outcome, hrun, hwell, fun _ => hexpected⟩

end Check

/-- A rule whose formula is not accepted is a skip with the reason, and one whose formula is
accepted comes to what its check comes to. -/
theorem ValidationRule.execute_cases (rule : ValidationRule) (ctx : Context) :
    (∃ e, Formula.resolve .standard ctx.settings.maxDepth rule.formula = .error e ∧
      rule.execute ctx .standard = .ok (.malformed e)) ∨
    ∃ c arguments outcome,
      Formula.resolve .standard ctx.settings.maxDepth rule.formula = .ok (c, arguments) ∧
      List.Forall₂ (ArgumentKind.Accepts ctx) c.argumentKinds arguments ∧
      rule.execute ctx .standard = .ok outcome ∧ outcome.WellFormed ∧
      (c.name ≠ "REQUIRES" → outcome.ShowsExpected) := by
  unfold execute
  cases hformula : Formula.resolve .standard ctx.settings.maxDepth rule.formula with
  | error e => exact .inl ⟨e, rfl, rfl⟩
  | ok call =>
    obtain ⟨c, arguments⟩ := call
    obtain ⟨hc, harguments⟩ := Formula.accepts_of_resolve hformula
    obtain ⟨outcome, hrun, hwell, hexpected⟩ := Check.run_ok hc harguments
    exact .inr ⟨c, arguments, outcome, rfl, harguments, hrun, hwell, hexpected⟩

/-- Every rule comes to an outcome. -/
theorem ValidationRule.exists_outcome (rule : ValidationRule) (ctx : Context) :
    ∃ outcome, rule.execute ctx .standard = .ok outcome := by
  rcases rule.execute_cases ctx with ⟨e, -, h⟩ | ⟨_, _, outcome, -, -, h, -, -⟩
  · exact ⟨_, h⟩
  · exact ⟨_, h⟩

end Scorecard
