import Scorecard.Proofs.Check.Outcome
import Scorecard.Proofs.Decimal.Numeral
import Scorecard.Proofs.Expr.Lexer
import Scorecard.Proofs.Text.Split

/-!
# Formulas written from a check and its arguments

The colon separates the parts of a formula, and neither expressions nor numbers have one. So a
formula that is written from the name of a standard check and from arguments that the check wants
runs that check on these arguments.
-/

namespace Scorecard

/-! ## Arguments without colons -/

theorem Expr.colon_notMem_of_isValid {s : String} {limit : Int} (h : isValid s limit = true) :
    ':' ∉ s.toList := by
  intro hcolon
  have htrimmed : ':' ∈ (Text.trim s).toList := by
    rw [Text.trim, String.toList_ofList]
    exact Text.mem_trimWhile hcolon (by decide)
  unfold isValid at h
  cases hparse : parse (Text.trim s) limit with
  | error err => simp [hparse] at h
  | ok e =>
    obtain ⟨ls, hlex, -⟩ := bind_eq_ok_iff.1 hparse
    have hchar := isTextChar_of_lexFrom hlex ':' htrimmed
    revert hchar
    decide

namespace ArgumentKind

variable {ctx : Context} {kind : ArgumentKind} {text : String}

theorem Accepts.colon_notMem (h : kind.Accepts ctx text)
    (hkind : kind = .expression ∨ kind = .number) : ':' ∉ text.toList := by
  rcases hkind with rfl | rfl
  · exact Expr.colon_notMem_of_isValid (accepts_expression_iff.1 h)
  · obtain ⟨x, hx⟩ := h
    exact colon_notMem_of_textNumber? hx

theorem read?_trim (ctx : Context) (kind : ArgumentKind) (text : String) :
    kind.read? ctx (Text.trim text) = kind.read? ctx text := by
  cases kind with
  | expression =>
    show Expr.evaluate? _ _ _ = Expr.evaluate? _ _ _
    rw [Expr.evaluate?, Expr.evaluate?, Text.trim_trim]
  | number =>
    show textNumber? _ = textNumber? _
    rw [textNumber?, textNumber?, Text.trim, String.toList_ofList, Text.trimmed_trimmed]
  | other name => rfl

theorem Accepts.trim (h : kind.Accepts ctx text) : kind.Accepts ctx (Text.trim text) := by
  cases kind with
  | expression =>
    rw [accepts_expression_iff] at h ⊢
    rw [Expr.isValid, Text.trim_trim]
    exact h
  | number =>
    obtain ⟨x, hx⟩ := h
    exact ⟨x, (read?_trim ctx .number text).trans hx⟩
  | other name => trivial

theorem colon_notMem_arguments {kinds : List ArgumentKind} {arguments : List String}
    (hkinds : ∀ kind ∈ kinds, kind = .expression ∨ kind = .number)
    (h : List.Forall₂ (Accepts ctx) kinds arguments) : ∀ text ∈ arguments, ':' ∉ text.toList := by
  induction h with
  | nil => simp
  | cons hone _ ih =>
    obtain ⟨hkind, hkinds⟩ := List.forall_mem_cons.1 hkinds
    exact List.forall_mem_cons.2 ⟨hone.colon_notMem hkind, ih hkinds⟩

end ArgumentKind

/-! ## Written formulas -/

theorem Check.argumentKinds_standard :
    ∀ c ∈ Check.standard, ∀ kind ∈ c.argumentKinds,
      kind = ArgumentKind.expression ∨ kind = ArgumentKind.number := by
  decide

theorem Check.colon_notMem_name : ∀ c ∈ Check.standard, ':' ∉ c.name.toList := by
  decide

namespace Formula

/-- The formula of a name and arguments. -/
def written (name : String) (arguments : List String) : String :=
  ":".intercalate (name :: arguments)

theorem split_written {name : String} {arguments : List String} (hname : ':' ∉ name.toList)
    (h : ∀ text ∈ arguments, ':' ∉ text.toList) :
    split (written name arguments) = (Text.upper (Text.trim name), arguments.map Text.trim) := by
  have hparts : Text.split ':' (written name arguments) = name :: arguments :=
    Text.split_intercalate (List.cons_ne_nil _ _) (List.forall_mem_cons.2 ⟨hname, h⟩)
  rw [split, hparts]
  rfl

example : written "RANGE" ["gain / costs", "-1", " 1"] = "RANGE:gain / costs:-1: 1" ∧
    split "RANGE:gain / costs:-1: 1" = ("RANGE", ["gain / costs", "-1", "1"]) := by
  decide

variable {ctx : Context} {c : Check} {arguments : List String}

/-- A formula that is written from a name that finds a check, and from arguments that the check
wants, calls the check on them. -/
theorem resolve_written_of_find? {registry : Registry} {name : String} (hname : ':' ∉ name.toList)
    (hcolon : ∀ text ∈ arguments, ':' ∉ text.toList)
    (hne : (Text.upper (Text.trim name)).isEmpty = false)
    (hfind : registry.find? (Text.upper (Text.trim name)) = some c)
    (hkinds : c.argumentNames.length = c.argumentKinds.length)
    (h : List.Forall₂ (ArgumentKind.Accepts ctx) c.argumentKinds arguments) :
    resolve registry ctx.settings.maxDepth (written name arguments) =
      .ok (c, arguments.map Text.trim) := by
  have hlength : (arguments.map Text.trim).length = c.argumentNames.length := by
    rw [List.length_map, hkinds, h.length_eq]
  have hsplit := split_written hname hcolon
  refine resolve_eq_ok_iff.2 ⟨?_, ?_, ?_, hlength, ?_⟩
  · rw [hsplit]
    exact hne
  · rw [hsplit]
    exact hfind
  · rw [hsplit]
  · rw [firstError?_eq_none_iff hkinds hlength, List.forall₂_map_right_iff]
    exact h.imp fun _ _ => ArgumentKind.Accepts.trim

theorem resolve_written (hc : c ∈ Check.standard)
    (h : List.Forall₂ (ArgumentKind.Accepts ctx) c.argumentKinds arguments) :
    resolve .standard ctx.settings.maxDepth (written c.name arguments) =
      .ok (c, arguments.map Text.trim) := by
  have hnamed : ∀ c ∈ Check.standard, (Text.upper (Text.trim c.name)).isEmpty = false := by
    decide
  exact resolve_written_of_find? (Check.colon_notMem_name c hc)
    (ArgumentKind.colon_notMem_arguments (Check.argumentKinds_standard c hc) h) (hnamed c hc)
    (Registry.find?_standard hc) (Check.length_argumentKinds c hc) h

end Formula

/-- A rule with a written formula runs the check on the arguments. -/
theorem ValidationRule.execute_written {ctx : Context} {rule : ValidationRule} {c : Check}
    (hc : c ∈ Check.standard) {arguments : List String}
    (h : List.Forall₂ (ArgumentKind.Accepts ctx) c.argumentKinds arguments)
    (hrule : rule.formula = Formula.written c.name arguments) :
    rule.execute ctx .standard = c.run ctx rule arguments := by
  have hlength : arguments.length = c.arity :=
    h.length_eq.symm.trans (Check.length_argumentKinds c hc).symm
  have hread : c.read ctx (arguments.map Text.trim) = c.read ctx arguments := by
    rw [Check.read, Check.read, List.zipWith_map_right]
    simp only [ArgumentKind.read?_trim]
  rw [execute, hrule, Formula.resolve_written hc h]
  exact Check.run_congr hc rfl (by rw [List.length_map, hlength]) hlength hread

end Scorecard
