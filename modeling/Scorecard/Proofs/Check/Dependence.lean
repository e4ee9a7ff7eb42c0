import Scorecard.Proofs.Check.Standard
import Scorecard.Proofs.Readings

/-!
# What the outcome of a rule depends on

An expression is evaluated from the numbers of the KPIs that it mentions. The outcome of a rule
follows from the values of its arguments, so it depends on the KPIs in the expressions of its
formula, and on no others: these may be added to the readings, taken away or changed.
-/

namespace Scorecard

open Text (fold trim)

/-! ## Expressions -/

namespace Expr

variable {lookup lookup' : String → Option Float}

theorem eval?_agree {e : Expr} (h : ∀ id ∈ e.ids, lookup id = lookup' id) :
    e.eval? lookup = e.eval? lookup' := by
  induction e with
  | number x => rfl
  | kpi id => exact h id List.mem_cons_self
  | signed s e ih => rw [eval?, eval?, ih h]
  | binary op l r ihl ihr =>
    have hl : l.eval? lookup = l.eval? lookup' :=
      ihl fun id hid => h id (List.mem_append_left _ hid)
    have hr : r.eval? lookup = r.eval? lookup' :=
      ihr fun id hid => h id (List.mem_append_right _ hid)
    rw [eval?, eval?, hl, hr]

/-- The KPIs that a text mentions, if it spells an expression. -/
def idsOf (limit : Int) (text : String) : List String :=
  match parse (trim text) limit with
  | .ok e => e.ids
  | .error _ => []

theorem evaluate?_agree {limit : Int} {text : String}
    (h : ∀ id ∈ idsOf limit text, lookup id = lookup' id) :
    evaluate? text limit lookup = evaluate? text limit lookup' := by
  unfold evaluate?
  unfold idsOf at h
  cases hparse : parse (trim text) limit with
  | error e => rfl
  | ok e =>
    rw [hparse] at h
    dsimp only at h ⊢
    rw [value?, value?, eval?_agree h]

end Expr

/-! ## Formulas -/

/-- The KPIs that an argument mentions; a number mentions none. -/
def ArgumentKind.ids (limit : Int) : ArgumentKind → String → List String
  | .expression, text => Expr.idsOf limit text
  | .number, _ => []
  | .other _, _ => []

/-- The KPIs that the expressions of a formula mention. A formula that is not accepted mentions
none, as it is not evaluated. -/
def Formula.ids (limit : Int) (formula : String) : List String :=
  match resolve .standard limit formula with
  | .ok (c, arguments) => (List.zipWith (ArgumentKind.ids limit) c.argumentKinds arguments).flatten
  | .error _ => []

section Agreement

variable {ctx ctx' : Context}

theorem ArgumentKind.read?_agree (hdepth : ctx.settings.maxDepth = ctx'.settings.maxDepth)
    {kind : ArgumentKind} {text : String}
    (h : ∀ id ∈ kind.ids ctx.settings.maxDepth text,
      ctx.readings.value? id = ctx'.readings.value? id) :
    kind.read? ctx text = kind.read? ctx' text := by
  cases kind with
  | expression =>
    change ctx.evaluate? text = ctx'.evaluate? text
    rw [Context.evaluate?, Context.evaluate?, ← hdepth]
    exact Expr.evaluate?_agree h
  | number => rfl
  | other name => rfl

theorem ArgumentKind.zipWith_read?_agree
    (hdepth : ctx.settings.maxDepth = ctx'.settings.maxDepth) {kinds : List ArgumentKind}
    {arguments : List String}
    (h : ∀ id ∈ (List.zipWith (ids ctx.settings.maxDepth) kinds arguments).flatten,
      ctx.readings.value? id = ctx'.readings.value? id) :
    List.zipWith (read? ctx) kinds arguments = List.zipWith (read? ctx') kinds arguments := by
  induction kinds generalizing arguments with
  | nil => rfl
  | cons kind kinds ih =>
    cases arguments with
    | nil => rfl
    | cons text arguments =>
      rw [List.zipWith_cons_cons, List.flatten_cons] at h
      have hfirst : kind.read? ctx text = kind.read? ctx' text :=
        read?_agree hdepth fun id hid => h id (List.mem_append_left _ hid)
      have hrest := ih fun id hid => h id (List.mem_append_right _ hid)
      rw [List.zipWith_cons_cons, List.zipWith_cons_cons, hfirst, hrest]

/-- Readings that agree on the KPIs of a formula come to the same outcome. -/
theorem ValidationRule.execute_agree (rule : ValidationRule)
    (hdepth : ctx.settings.maxDepth = ctx'.settings.maxDepth)
    (h : ∀ id ∈ Formula.ids ctx.settings.maxDepth rule.formula,
      ctx.readings.value? id = ctx'.readings.value? id) :
    rule.execute ctx .standard = rule.execute ctx' .standard := by
  cases hformula : Formula.resolve .standard ctx.settings.maxDepth rule.formula with
  | error e => rw [execute, execute, ← hdepth, hformula]
  | ok call =>
    obtain ⟨c, arguments⟩ := call
    rw [Formula.ids, hformula] at h
    exact execute_congr rfl hformula (hdepth ▸ hformula)
      (ArgumentKind.zipWith_read?_agree hdepth h)

end Agreement

/-- The outcome of a rule is the same for readings that give the same number, or none, to each KPI
that its formula mentions. In particular it is the same for two mappings that have the same entries
for these KPIs, whatever entries they have for others. -/
theorem ValidationRule.execute_depends_only_on_ids (rule : ValidationRule) (ctx : Context) :
    (∀ readings : Readings,
      (∀ id ∈ Formula.ids ctx.settings.maxDepth rule.formula,
        readings.value? id = ctx.readings.value? id) →
      rule.execute { ctx with readings } .standard = rule.execute ctx .standard) ∧
    ∀ (values values' : List (String × Datum)) (readings readings' : Readings),
      Readings.ofEntries values = .ok readings → Readings.ofEntries values' = .ok readings' →
      (∀ id ∈ Formula.ids ctx.settings.maxDepth rule.formula,
        values.filter (fun e => fold e.1 = fold id) =
          values'.filter fun e => fold e.1 = fold id) →
      rule.execute { ctx with readings } .standard =
        rule.execute { ctx with readings := readings' } .standard := by
  refine ⟨fun readings h => rule.execute_agree rfl h, ?_⟩
  intro values values' readings readings' hreadings hreadings' h
  refine rule.execute_agree rfl fun id hid => ?_
  exact Readings.value?_ofEntries_congr hreadings hreadings' (h id hid)

/-- The rent may be added to the values, as the formula does not mention it. -/
theorem ValidationRule.execute_with_rent :
    ∃ readings readings',
      Readings.ofEntries [("Revenue", .int 120), (" costs", .text "90")] = .ok readings ∧
      Readings.ofEntries ([("Revenue", .int 120), (" costs", .text "90")] ++
        [("rent", .int 30)]) = .ok readings' ∧
      ({ id := "covered", formula := "GTE:revenue:costs" } : ValidationRule).execute
          { readings } .standard =
        ({ id := "covered", formula := "GTE:revenue:costs" } : ValidationRule).execute
          { readings := readings' } .standard := by
  obtain ⟨readings, hreadings⟩ := exists_eq_ok (x := Readings.ofEntries
    [("Revenue", .int 120), (" costs", .text "90")]) (by decide)
  obtain ⟨readings', hreadings'⟩ := exists_eq_ok (x := Readings.ofEntries
    ([("Revenue", .int 120), (" costs", .text "90")] ++ [("rent", .int 30)])) (by decide)
  refine ⟨readings, readings', hreadings, hreadings', ?_⟩
  refine (ValidationRule.execute_depends_only_on_ids _ {}).2 _ _ _ _ hreadings hreadings' ?_
  have hother : ∀ id ∈ Formula.ids 32 "GTE:revenue:costs", ¬ fold "rent" = fold id := by
    decide +kernel
  intro id hid
  have hrent : [("rent", Datum.int 30)].filter (fun e => fold e.1 = fold id) = [] :=
    List.filter_cons_of_neg (by rw [decide_eq_true_eq]; exact hother id hid)
  rw [List.filter_append, hrent, List.append_nil]

end Scorecard
