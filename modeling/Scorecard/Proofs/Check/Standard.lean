import Scorecard.Check.Execution
import Scorecard.Proofs.Assoc
import Scorecard.Proofs.Check.Registry
import Scorecard.Proofs.Sequence

/-!
# The standard checks

A formula that is accepted calls one of the standard checks with as many arguments as it takes.
What such a check finds depends on the tolerance of the rule and on the figures that its arguments
stand for, and on nothing else: neither on how the arguments are spelled nor on any other part of
the context.
-/

namespace Scorecard

/-! ## The registry -/

theorem Registry.lookup_register {r r' : Registry} {c d : Check} {key : String}
    (h : r.register c = .ok r') (hkey : r'.byKey.lookup key = some d) :
    d = c ∨ r.byKey.lookup key = some d := by
  obtain ⟨-, -, -, rfl⟩ := register_eq_ok_iff.1 h
  rw [lookup_enter] at hkey
  split at hkey
  · exact .inl (Option.some.inj hkey).symm
  · exact .inr hkey

theorem Registry.lookup_registerAll {r : Registry} {checks : List Check} {key : String}
    {d : Check} (h : (r.registerAll checks).byKey.lookup key = some d) :
    d ∈ checks ∨ r.byKey.lookup key = some d := by
  induction checks generalizing r with
  | nil => exact .inr h
  | cons c checks ih =>
    rw [Registry.registerAll, List.foldl_cons] at h
    rcases ih h with h | h
    · exact .inl (List.mem_cons_of_mem c h)
    · split at h
      · rename_i r' hr'
        rcases lookup_register hr' h with rfl | h
        · exact .inl List.mem_cons_self
        · exact .inr h
      · exact .inr h

/-- The standard registry holds only standard checks. -/
theorem Registry.mem_standard {name : String} {c : Check} (h : standard.find? name = some c) :
    c ∈ Check.standard :=
  (lookup_registerAll h).resolve_right (by simp)

theorem Check.name_injOn {c d : Check} (hc : c ∈ standard) (hd : d ∈ standard)
    (h : c.name = d.name) : c = d :=
  List.inj_on_of_nodup_map (f := name) (by decide) hc hd h

/-- Each standard check is found by the name that formulas start with. -/
theorem Registry.find?_standard {c : Check} (hc : c ∈ Check.standard) :
    standard.find? (Text.upper (Text.trim c.name)) = some c := by
  have hnames : ∀ c ∈ Check.standard,
      (standard.find? (Text.upper (Text.trim c.name))).map (·.name) = some c.name := by
    decide
  obtain ⟨d, hfind, hname⟩ := Option.map_eq_some_iff.1 (hnames c hc)
  rw [hfind, Check.name_injOn (mem_standard hfind) hc hname]

/-! ## Accepted formulas -/

namespace Formula

/-- A formula is accepted if its name calls a check whose arguments fit. -/
theorem resolve_eq_ok_iff {registry : Registry} {limit : Int} {formula : String} {c : Check}
    {arguments : List String} :
    resolve registry limit formula = .ok (c, arguments) ↔
      (split formula).1.isEmpty = false ∧ registry.find? (split formula).1 = some c ∧
        arguments = (split formula).2 ∧ arguments.length = c.arity ∧
        firstError? limit c c.argumentNames c.argumentKinds arguments = none := by
  rcases hsplit : split formula with ⟨name, found⟩
  unfold resolve
  rw [hsplit]
  cases hname : name.isEmpty with
  | true => simp [hname]
  | false =>
    cases hfind : registry.find? name with
    | none => simp [hname, hfind]
    | some d =>
      simp only [hname, hfind, Bool.false_eq_true, if_false]
      constructor
      · intro h
        split at h
        · simp at h
        · rename_i hcount
          split at h
          · simp at h
          · rename_i hfirst
            obtain ⟨rfl, rfl⟩ := Prod.mk.inj (Except.ok.inj h)
            exact ⟨trivial, rfl, rfl, not_not.1 hcount, hfirst⟩
      · rintro ⟨-, hd, rfl, hcount, hfirst⟩
        obtain rfl := Option.some.inj hd
        rw [if_neg (not_not.2 hcount), hfirst]

theorem firstError?_cons_eq_none_iff {limit : Int} {c : Check} {name text : String}
    {kind : ArgumentKind} {names : List String} {kinds : List ArgumentKind} {texts : List String} :
    firstError? limit c (name :: names) (kind :: kinds) (text :: texts) = none ↔
      argumentError? limit c name kind text = none ∧
        firstError? limit c names kinds texts = none := by
  rw [firstError?]
  cases argumentError? limit c name kind text with
  | none => simp
  | some e => simp

end Formula

/-! ## What checks read -/

/-- The figure that an argument of some kind stands for. -/
def ArgumentKind.read? (ctx : Context) : ArgumentKind → String → Option Float
  | .expression, text => ctx.evaluate? text
  | .number, text => textNumber? text
  | .other _, _ => none

/-- The figures that the arguments of a check stand for. -/
def Check.read (c : Check) (ctx : Context) (arguments : List String) : List (Option Float) :=
  List.zipWith (ArgumentKind.read? ctx) c.argumentKinds arguments

namespace Check

variable {ctx ctx' : Context}

theorem ofComparison_congr {compare : ValidationRule → Float → Float → Outcome}
    {rule rule' : ValidationRule} (hcompare : compare rule = compare rule') {a a' b b' : String}
    (ha : ctx.evaluate? a = ctx'.evaluate? a') (hb : ctx.evaluate? b = ctx'.evaluate? b') :
    ofComparison compare ctx rule [a, b] = ofComparison compare ctx' rule' [a', b'] := by
  rw [ofComparison, ofComparison, ha, hb, hcompare]

theorem agreement_congr {rule rule' : ValidationRule} (h : rule.tolerance = rule'.tolerance) :
    agreement rule = agreement rule' := by
  funext left right
  rw [agreement, agreement, h]

theorem ofBound_congr (within : Float → Float → Bool) (rule rule' : ValidationRule)
    {a a' b b' : String} (ha : ctx.evaluate? a = ctx'.evaluate? a')
    (hb : textNumber? b = textNumber? b') :
    ofBound within ctx rule [a, b] = ofBound within ctx' rule' [a', b'] := by
  rw [ofBound, ofBound, ha, hb]

theorem inRange_congr (rule rule' : ValidationRule) {a a' b b' c c' : String}
    (ha : ctx.evaluate? a = ctx'.evaluate? a') (hb : textNumber? b = textNumber? b')
    (hc : textNumber? c = textNumber? c') :
    inRange ctx rule [a, b, c] = inRange ctx' rule' [a', b', c'] := by
  rw [inRange, inRange, ha, hb, hc]

theorem required_congr (rule rule' : ValidationRule) {a a' b b' : String}
    (ha : ctx.evaluate? a = ctx'.evaluate? a') (hb : ctx.evaluate? b = ctx'.evaluate? b') :
    required ctx rule [a, b] = required ctx' rule' [a', b'] := by
  rw [required, required, ha, hb]

/-- Two arguments stand for the same figures if each of them does. -/
theorem read_pair {c : Check} {kind₁ kind₂ : ArgumentKind}
    (hkinds : c.argumentKinds = [kind₁, kind₂]) (harity : c.arity = 2)
    {arguments arguments' : List String} (hlength : arguments.length = c.arity)
    (hlength' : arguments'.length = c.arity)
    (hread : c.read ctx arguments = c.read ctx' arguments') :
    ∃ a b a' b', arguments = [a, b] ∧ arguments' = [a', b'] ∧
      kind₁.read? ctx a = kind₁.read? ctx' a' ∧ kind₂.read? ctx b = kind₂.read? ctx' b' := by
  rw [harity] at hlength hlength'
  obtain ⟨a, b, rfl⟩ := List.length_eq_two.1 hlength
  obtain ⟨a', b', rfl⟩ := List.length_eq_two.1 hlength'
  rw [read, read, hkinds] at hread
  obtain ⟨ha, hrest⟩ := List.cons.inj hread
  obtain ⟨hb, -⟩ := List.cons.inj hrest
  exact ⟨a, b, a', b', rfl, rfl, ha, hb⟩

/-- A standard check finds the same if its arguments stand for the same figures. -/
theorem run_congr {c : Check} (hc : c ∈ standard) {rule rule' : ValidationRule}
    (htolerance : rule.tolerance = rule'.tolerance)
    {arguments arguments' : List String} (hlength : arguments.length = c.arity)
    (hlength' : arguments'.length = c.arity)
    (hread : c.read ctx arguments = c.read ctx' arguments') :
    c.run ctx rule arguments = c.run ctx' rule' arguments' := by
  simp only [standard, List.mem_cons, List.not_mem_nil, or_false] at hc
  rcases hc with rfl | rfl | rfl | rfl | rfl | rfl | rfl | rfl
  · obtain ⟨a, b, a', b', rfl, rfl, ha, hb⟩ := read_pair rfl rfl hlength hlength' hread
    exact ofComparison_congr rfl ha hb
  · obtain ⟨a, b, a', b', rfl, rfl, ha, hb⟩ := read_pair rfl rfl hlength hlength' hread
    exact ofComparison_congr rfl ha hb
  · obtain ⟨a, b, a', b', rfl, rfl, ha, hb⟩ := read_pair rfl rfl hlength hlength' hread
    exact ofComparison_congr (agreement_congr htolerance) ha hb
  · obtain ⟨a, b, c, rfl⟩ := List.length_eq_three.1 hlength
    obtain ⟨a', b', c', rfl⟩ := List.length_eq_three.1 hlength'
    obtain ⟨ha, hrest⟩ := List.cons.inj hread
    obtain ⟨hb, hrest⟩ := List.cons.inj hrest
    obtain ⟨hc, -⟩ := List.cons.inj hrest
    exact inRange_congr rule rule' ha hb hc
  · obtain ⟨a, b, a', b', rfl, rfl, ha, hb⟩ := read_pair rfl rfl hlength hlength' hread
    exact ofBound_congr _ rule rule' ha hb
  · obtain ⟨a, b, a', b', rfl, rfl, ha, hb⟩ := read_pair rfl rfl hlength hlength' hread
    exact ofBound_congr _ rule rule' ha hb
  · obtain ⟨a, b, a', b', rfl, rfl, ha, hb⟩ := read_pair rfl rfl hlength hlength' hread
    exact ofComparison_congr (agreement_congr htolerance) ha hb
  · obtain ⟨a, b, a', b', rfl, rfl, ha, hb⟩ := read_pair rfl rfl hlength hlength' hread
    exact required_congr rule rule' ha hb

end Check

/-- Two rules come to the same outcome if they call the same check on arguments that stand for the
same figures. -/
theorem ValidationRule.execute_congr {rule rule' : ValidationRule} {ctx ctx' : Context}
    (htolerance : rule.tolerance = rule'.tolerance) {c : Check} {arguments arguments' : List String}
    (h : Formula.resolve .standard ctx.settings.maxDepth rule.formula = .ok (c, arguments))
    (h' : Formula.resolve .standard ctx'.settings.maxDepth rule'.formula = .ok (c, arguments'))
    (hread : c.read ctx arguments = c.read ctx' arguments') :
    rule.execute ctx .standard = rule'.execute ctx' .standard := by
  obtain ⟨-, hfind, -, hlength, -⟩ := Formula.resolve_eq_ok_iff.1 h
  obtain ⟨-, -, -, hlength', -⟩ := Formula.resolve_eq_ok_iff.1 h'
  rw [execute, execute, h, h']
  exact Check.run_congr (Registry.mem_standard hfind) htolerance hlength hlength' hread

end Scorecard
