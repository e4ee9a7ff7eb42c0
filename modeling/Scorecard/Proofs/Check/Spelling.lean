import Scorecard.Proofs.Expr.Spelling
import Scorecard.Proofs.Validation

/-!
# Formulas with identifiers in other letter case

Where an argument of a check is an expression, its identifiers name KPIs. Two formulas that are
both accepted and differ only in how these identifiers are spelled stand for the same figures, so
their rules come to the same outcome.
-/

namespace Scorecard

/-- Two arguments of one kind that differ at most in the spelling of identifiers. -/
def ArgumentKind.Respelled : ArgumentKind → String → String → Prop
  | .expression, a, b => Expr.RespelledText a b
  | .number, a, b => a = b
  | .other _, a, b => a = b

/-- Two accepted formulas that call one check on arguments that differ at most in the spelling of
identifiers. -/
def Formula.Respelled (limit : Int) (formula formula' : String) : Prop :=
  ∃ c arguments arguments', resolve .standard limit formula = .ok (c, arguments) ∧
    resolve .standard limit formula' = .ok (c, arguments') ∧
    List.Forall₂ (fun (kind, a) b => ArgumentKind.Respelled kind a b)
      (c.argumentKinds.zip arguments) arguments'

/-- Two rules that differ in nothing but the spelling of identifiers in their formulas. -/
structure ValidationRule.Respelled (limit : Int) (rule rule' : ValidationRule) : Prop where
  /-- The rules agree in all but their formulas. -/
  rest : rule' = { rule with formula := rule'.formula }
  /-- The formulas differ in the spelling of identifiers alone. -/
  formula : Formula.Respelled limit rule.formula rule'.formula

/-- Two accepted formulas with one name call one check, so only their arguments are compared. -/
theorem Formula.respelled_of_split {limit : Int} {formula formula' : String}
    {kinds : List ArgumentKind} (haccept : (resolve .standard limit formula).isOk = true)
    (haccept' : (resolve .standard limit formula').isOk = true)
    (hname : (split formula).1 = (split formula').1)
    (hkinds : (Registry.standard.find? (split formula).1).map (·.argumentKinds) = some kinds)
    (harguments : List.Forall₂ (fun (kind, a) b => ArgumentKind.Respelled kind a b)
      (kinds.zip (split formula).2) (split formula').2) :
    Formula.Respelled limit formula formula' := by
  obtain ⟨⟨c, arguments⟩, h⟩ := exists_eq_ok haccept
  obtain ⟨⟨c', arguments'⟩, h'⟩ := exists_eq_ok haccept'
  obtain ⟨-, hfind, rfl, -⟩ := resolve_eq_ok_iff.1 h
  obtain ⟨-, hfind', rfl, -⟩ := resolve_eq_ok_iff.1 h'
  rw [← hname, hfind] at hfind'
  obtain rfl := Option.some.inj hfind'
  rw [hfind] at hkinds
  obtain rfl := Option.some.inj hkinds
  exact ⟨c, _, _, h, h', harguments⟩

theorem ArgumentKind.Respelled.read?_eq (ctx : Context) {kind : ArgumentKind} {a b : String}
    (h : kind.Respelled a b) : kind.read? ctx a = kind.read? ctx b := by
  cases kind with
  | expression => exact ctx.evaluate?_respelled h
  | number => exact congrArg textNumber? h
  | other name => rfl

theorem ArgumentKind.zipWith_read? (ctx : Context) {kinds : List ArgumentKind}
    {arguments arguments' : List String}
    (h : List.Forall₂ (fun (kind, a) b => ArgumentKind.Respelled kind a b)
      (kinds.zip arguments) arguments') :
    List.zipWith (read? ctx) kinds arguments = List.zipWith (read? ctx) kinds arguments' := by
  induction kinds generalizing arguments arguments' with
  | nil => rfl
  | cons kind kinds ih =>
    cases arguments with
    | nil =>
      cases h
      rfl
    | cons a arguments =>
      cases h with
      | cons ha h => rw [List.zipWith_cons_cons, List.zipWith_cons_cons, ha.read?_eq ctx, ih h]

/-- A rule comes to the same outcome if the identifiers of its formula are re-spelled. -/
theorem ValidationRule.Respelled.sameOutcome {ctx : Context} {rule rule' : ValidationRule}
    (h : rule.Respelled ctx.settings.maxDepth rule') : rule.SameOutcome ctx ctx rule' := by
  obtain ⟨c, arguments, arguments', hresolve, hresolve', harguments⟩ := h.formula
  have htolerance : rule.tolerance = rule'.tolerance := by rw [h.rest]
  exact ⟨rule'.formula, h.rest, (execute_congr htolerance hresolve hresolve'
    (ArgumentKind.zipWith_read? ctx harguments)).symm⟩

end Scorecard
