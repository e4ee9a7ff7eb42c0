import Scorecard.Proofs.Check.Registry
import Scorecard.Proofs.Check.Written

/-!
# Names that call a check

Three places look at the name of a check: the registry keeps it in upper case, a formula is cut at
every colon and its parts are trimmed, and the registry trims the name that is looked for. So a
check can be registered under a name that no formula reaches: one with a colon, and one with white
space around it, unless the check has the trimmed name as well.
-/

namespace Scorecard

/-! ## Written names -/

namespace Formula

/-- The parts of a written formula are the parts of the name, and the arguments. -/
theorem split_written_eq_append (name : String) {arguments : List String}
    (h : ∀ text ∈ arguments, ':' ∉ text.toList) :
    Text.split ':' (written name arguments) = Text.split ':' name ++ arguments := by
  cases arguments with
  | nil =>
    rw [List.append_nil]
    rfl
  | cons first rest =>
    have hchars : (written name (first :: rest)).toList =
        name.toList ++ ':' :: (":".intercalate (first :: rest)).toList := by
      simp [written, String.toList_intercalate]
    have hparts := Text.split_intercalate (List.cons_ne_nil first rest) h
    rw [Text.split] at hparts
    rw [Text.split, hchars, Text.pieces_append, List.map_append]
    exact congrArg _ hparts

/-- A name with a colon leaves a formula with more arguments than were written. -/
theorem length_lt_of_colon {name : String} {arguments : List String} (hname : ':' ∈ name.toList)
    (h : ∀ text ∈ arguments, ':' ∉ text.toList) :
    arguments.length < (split (written name arguments)).2.length := by
  have hparts : 1 < (Text.split ':' name).length := by
    rw [Text.split, List.length_map]
    exact Text.one_lt_length_pieces hname
  rw [split, split_written_eq_append name h]
  cases hsplit : Text.split ':' name with
  | nil => simp [hsplit] at hparts
  | cons p ps =>
    rw [hsplit, List.length_cons] at hparts
    simp only [List.cons_append, List.map_cons, List.length_map, List.length_append]
    omega

end Formula

/-! ## Names that are reached -/

/-- A name by which formulas reach a check: it has no colon, it is not blank, and without white
space around it it is, in some letter case, a name of the check. -/
structure Check.CalledBy (c : Check) (name : String) : Prop where
  /-- The name has no colon. -/
  noColon : ':' ∉ name.toList
  /-- The name is more than white space. -/
  notBlank : Text.trim name ≠ ""
  /-- Without the white space around it, the name is one of the check in some letter case. -/
  spells : ∃ own ∈ c.names, Text.upper own = Text.upper (Text.trim name)

theorem Check.calledBy_of_tight {c : Check} {name : String} (hname : name ∈ c.names)
    (hcolon : ':' ∉ name.toList) (htrim : Text.trim name = name) (hne : name ≠ "") :
    c.CalledBy name where
  noColon := hcolon
  notBlank := by rwa [htrim]
  spells := ⟨name, hname, by rw [htrim]⟩

namespace Registry

variable {calls : List Check} {c : Check}

/-- A check that is registered is sound. -/
theorem Registered.length_argumentKinds (h : Registered calls c) :
    c.argumentNames.length = c.argumentKinds.length := by
  obtain ⟨earlier, -, r, hcall⟩ := h
  exact (register_eq_ok_iff.1 hcall).2.2.1

/-- The name of a formula finds a check that has the name in some letter case. -/
theorem find?_upper_trim (r : Registry) (name : String) :
    r.find? (Text.upper (Text.trim name)) = r.byKey.lookup (Text.upper (Text.trim name)) := by
  rw [find?, Text.upper_trim, Text.upper_trim, Text.upper_trim, Text.upper_upper, Text.trim_trim]

theorem Registered.find?_iff (h : Registered calls c) {name : String} :
    (after calls).find? (Text.upper (Text.trim name)) = some c ↔
      ∃ own ∈ c.names, Text.upper own = Text.upper (Text.trim name) := by
  rw [find?_upper_trim, lookup_after_iff, Check.mem_keys_iff]
  exact and_iff_right h

variable {ctx : Context} {name : String} {arguments : List String}

/-- A formula of a name and of arguments that a registered check wants calls the check exactly if
the name is one by which it is reached. -/
theorem Registered.exists_resolve_iff (h : Registered calls c)
    (hcolon : ∀ text ∈ arguments, ':' ∉ text.toList)
    (harguments : List.Forall₂ (ArgumentKind.Accepts ctx) c.argumentKinds arguments) :
    (∃ taken, Formula.resolve (after calls) ctx.settings.maxDepth
        (Formula.written name arguments) = .ok (c, taken)) ↔ c.CalledBy name := by
  have hkinds := h.length_argumentKinds
  constructor
  · rintro ⟨taken, hresolve⟩
    obtain ⟨hnamed, hfind, rfl, hlength, -⟩ := Formula.resolve_eq_ok_iff.1 hresolve
    have hname : ':' ∉ name.toList := by
      intro hname
      have hmore := Formula.length_lt_of_colon hname hcolon
      rw [hlength, Check.arity, hkinds, harguments.length_eq] at hmore
      exact lt_irrefl _ hmore
    rw [Formula.split_written hname hcolon] at hnamed hfind
    refine ⟨hname, ?_, h.find?_iff.1 hfind⟩
    intro hblank
    simp [hblank, Text.upper_eq_empty_iff.2 rfl] at hnamed
  · rintro ⟨hname, hblank, hspells⟩
    have hnamed : (Text.upper (Text.trim name)).isEmpty = false := by
      simpa [Text.upper_eq_empty_iff] using hblank
    exact ⟨_, Formula.resolve_written_of_find? hname hcolon hnamed (h.find?_iff.2 hspells) hkinds
      harguments⟩

end Registry

/-- A check that some calls have registered, and a rule whose formula is one of the check's names
and arguments of the kinds that the check wants: the formula calls the check exactly if the name is
one by which the check is reached, and then the rule comes to what the check comes to on these
arguments. Every name without a colon and without white space around it is one, unless it is
empty. -/
theorem ValidationRule.calls_registered_iff {calls : List Check} {c : Check}
    (h : Registry.Registered calls c) {name : String} (hname : name ∈ c.names) {ctx : Context}
    {arguments : List String} (hcolon : ∀ text ∈ arguments, ':' ∉ text.toList)
    (harguments : List.Forall₂ (ArgumentKind.Accepts ctx) c.argumentKinds arguments)
    {rule : ValidationRule} (hrule : rule.formula = Formula.written name arguments) :
    ((∃ taken, Formula.resolve (Registry.after calls) ctx.settings.maxDepth rule.formula =
        .ok (c, taken)) ↔ c.CalledBy name) ∧
    (c.CalledBy name → rule.execute ctx (Registry.after calls) =
      c.run ctx rule (arguments.map Text.trim)) ∧
    (':' ∉ name.toList → Text.trim name = name → name ≠ "" → c.CalledBy name) := by
  rw [hrule]
  refine ⟨h.exists_resolve_iff hcolon harguments, ?_, Check.calledBy_of_tight hname⟩
  intro hcalled
  obtain ⟨taken, hresolve⟩ := (h.exists_resolve_iff hcolon harguments).2 hcalled
  obtain ⟨-, -, htaken, -, -⟩ := Formula.resolve_eq_ok_iff.1 hresolve
  rw [Formula.split_written hcalled.noColon hcolon] at htaken
  rw [execute, hrule, hresolve, htaken]

/-- A check with a name in two words, and with the same name again as a header would have it. -/
def marginCheck : Check :=
  { Check.ratioMin with name := "Gross margin", aliases := [" gross margin ", "GM"] }

/-- The alias with white space around it is registered, and is reached because the check has the
trimmed name as well. -/
theorem ValidationRule.calls_margin :
    Registry.Registered [marginCheck] marginCheck ∧ " gross margin " ∈ marginCheck.names ∧
      (∀ text ∈ ["sales - costs", " 10"], ':' ∉ text.toList) ∧
      List.Forall₂ (ArgumentKind.Accepts {}) marginCheck.argumentKinds ["sales - costs", " 10"] ∧
      ({ id := "r", formula := " gross margin :sales - costs: 10" } : ValidationRule).execute {}
          (Registry.after [marginCheck]) =
        marginCheck.run {} { id := "r", formula := " gross margin :sales - costs: 10" }
          ["sales - costs", "10"] := by
  let rule : ValidationRule := { id := "r", formula := " gross margin :sales - costs: 10" }
  have hregistered : Registry.Registered [marginCheck] marginCheck :=
    ⟨[], List.prefix_rfl, exists_eq_ok (by decide)⟩
  have hname : " gross margin " ∈ marginCheck.names := by decide
  have hcolon : ∀ text ∈ ["sales - costs", " 10"], ':' ∉ text.toList := by decide
  have harguments : List.Forall₂ (ArgumentKind.Accepts {}) marginCheck.argumentKinds
      ["sales - costs", " 10"] :=
    .cons (ArgumentKind.accepts_expression_iff.2 (by decide +kernel))
      (.cons (Option.isSome_iff_exists.1 (by decide)) .nil)
  have hrule : rule.formula = Formula.written " gross margin " ["sales - costs", " 10"] := by
    decide
  have hcalled : marginCheck.CalledBy " gross margin " :=
    ⟨by decide, by decide, "Gross margin", by decide, by decide⟩
  have htrimmed : ["sales - costs", " 10"].map Text.trim = ["sales - costs", "10"] := by
    decide
  obtain ⟨-, hruns, -⟩ :=
    ValidationRule.calls_registered_iff hregistered hname hcolon harguments hrule
  exact ⟨hregistered, hname, hcolon, harguments, htrimmed ▸ hruns hcalled⟩

/-- A check whose one name has white space around it. -/
def paddedCheck : Check where
  name := " MARGIN "
  argumentNames := ["value"]
  argumentKinds := [.expression]
  run ctx _ texts := .ok { passed := false, actual := texts.head?.bind ctx.evaluate? }

/-- Not every name under which a check is registered calls it. -/
theorem ValidationRule.not_calls_every_registered :
    ¬ ∀ (calls : List Check) (c : Check), Registry.Registered calls c →
      ∀ name ∈ c.names, name ≠ "" → ∀ (ctx : Context) (arguments : List String),
        (∀ text ∈ arguments, ':' ∉ text.toList) →
        List.Forall₂ (ArgumentKind.Accepts ctx) c.argumentKinds arguments →
        ∀ rule : ValidationRule, rule.formula = Formula.written name arguments →
          ∃ taken, Formula.resolve (Registry.after calls) ctx.settings.maxDepth rule.formula =
            .ok (c, taken) := by
  intro h
  have hregistered : Registry.Registered [paddedCheck] paddedCheck :=
    ⟨[], List.prefix_rfl, exists_eq_ok (by decide)⟩
  have hcolon : ∀ text ∈ ["1"], ':' ∉ text.toList := by decide
  have harguments : List.Forall₂ (ArgumentKind.Accepts {}) paddedCheck.argumentKinds ["1"] :=
    .cons (ArgumentKind.accepts_expression_iff.2 (by decide +kernel)) .nil
  have hresolve := h [paddedCheck] paddedCheck hregistered " MARGIN " (by decide) (by decide) {}
    ["1"] hcolon harguments { id := "r", formula := Formula.written " MARGIN " ["1"] } rfl
  have hcalled := (hregistered.exists_resolve_iff hcolon harguments).1 hresolve
  obtain ⟨own, hown, hsame⟩ := hcalled.spells
  obtain rfl := List.mem_singleton.1 hown
  exact absurd hsame (by decide)

end Scorecard
