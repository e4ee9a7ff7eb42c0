import Scorecard.Proofs.Insight.Universal

/-!
# One spelling for each KPI

A rule on several KPIs may spell a KPI in several ways, among its own ids and in its trigger. Letter
case does not matter to the trigger, but names of fields are told apart by it. The first spelling
starts the names under which the KPI is shown, and placeholders with another spelling stay empty.
-/

namespace Scorecard

open Text (lower)
open KpiField (nameFor)

/-- Whether the placeholders of a name show a field of a KPI. -/
def Fields.Shows (fields : Fields) (name : String) (ctx : Context) (lookup : RatingLookup)
    (kpiId : String) (f : KpiField) : Prop :=
  ∃ result d, lookup.result? (lower kpiId) = some result ∧
    f.content result (ctx.kpi kpiId) ctx.settings.style = .ok d ∧ fields.text? name = some d.toText

/-- No field of a KPI is without a value. -/
theorem KpiField.content_ne_null {f : KpiField} {result : BenchmarkResult} {kpi : Kpi}
    {style : Figure.Style} {d : Datum} (h : f.content result kpi style = .ok d) : d ≠ .null := by
  rintro rfl
  cases f with
  | value | rating | name => cases h
  | rounded | formatted | poor | average | good | excellent =>
    obtain ⟨s, -, hs⟩ := map_eq_ok_iff.1 h
    cases hs

theorem Fields.StandsFor.shows {fields : Fields} {name : String} {ctx : Context}
    {lookup : RatingLookup} {kpiId : String} {f : KpiField}
    (h : fields.StandsFor name ctx lookup kpiId f) : fields.Shows name ctx lookup kpiId f := by
  obtain ⟨result, d, hresult, hd, hlookup⟩ := h
  refine ⟨result, d, hresult, hd, ?_⟩
  have hvalue := KpiField.content_ne_null hd
  rw [text?, hlookup]
  cases d with
  | null => exact absurd rfl hvalue
  | bool | int | float | text | list | record => rfl

namespace InsightRule

variable {rule : InsightRule} {ctx : Context} {lookup : RatingLookup} {clauses : List Clause}
  {fs : Fields}

/-- A rule on several KPIs shows a KPI under an id exactly if that is its first spelling. -/
theorem mem_shownIds_iff (hmany : ¬ (rule.kind = .single ∧ clauses.length = 1)) {id : String} :
    id ∈ rule.shownIds clauses ↔ rule.spelling? clauses id = some id := by
  rw [shownIds_many hmany, mem_distinctIds_iff]
  rfl

/-- A name that starts with another spelling is not set. -/
theorem fields_other_spelling (hmany : ¬ (rule.kind = .single ∧ clauses.length = 1))
    (h : rule.fields clauses ctx lookup = .ok fs) {id : String}
    (hid : rule.spelling? clauses id ≠ some id) {f : KpiField} (hplain : ¬ f.IsPlain id)
    (hclient : nameFor id f ≠ "company_name") : fs.text? (nameFor id f) = none := by
  have hkept : fs.lookup (nameFor id f) = ctx.client.fields.lookup (nameFor id f) := by
    refine fields_unset h (fun g hname => ?_) fun other hother g hname => ?_
    · exact hplain (KpiField.plainName_eq_nameFor_iff.1 hname).2
    · obtain ⟨-, -, hshown, -⟩ := hother
      rw [(KpiField.nameFor_inj hname).1, mem_shownIds_iff hmany] at hshown
      exact hid hshown
  have hnone : ctx.client.fields.lookup (nameFor id f) = none := by
    have hindustry : nameFor id f ≠ "industry" := KpiField.nameFor_ne (by decide) id f
    have hstate : nameFor id f ≠ "state" := KpiField.nameFor_ne (by decide) id f
    simp only [Client.fields, List.lookup_cons, beq_false_of_ne hclient,
      beq_false_of_ne hindustry, beq_false_of_ne hstate, List.lookup_nil]
  rw [Fields.text?, hkept, hnone]

theorem fire_eq_fired_iff (hclauses : rule.clauses = .ok clauses)
    (hfires : Trigger.fires clauses lookup.rating? = true) {finding : Finding} :
    rule.fire ctx lookup = .ok (.fired finding) ↔ rule.render clauses ctx lookup = .ok finding := by
  rw [fire, hclauses]
  dsimp only
  rw [if_pos hfires, map_eq_ok_iff]
  simp only [Firing.fired.injEq, exists_eq_right]

/-- A rule on several KPIs that fires gives a finding exactly if the figures of those that are rated
can be written. In its texts the placeholders that start with the first spelling of a rated KPI show
the fields of that KPI, unless a KPI with the empty id has taken a name from it. Those that start
with another spelling show nothing, unless the client's name or a plain name happens to be spelled
so. -/
theorem fire_shows_first_spelling {rule : InsightRule} (hkind : rule.kind = .composite)
    {clauses : List Clause} (hclauses : rule.clauses = .ok clauses) {lookup : RatingLookup}
    (hfires : Trigger.fires clauses lookup.rating? = true) (ctx : Context) :
    ((∃ finding, rule.fire ctx lookup = .ok (.fired finding)) ↔
      ∀ id ∈ rule.shownIds clauses, (lookup.result? (lower id)).isSome = true → ctx.Writes id) ∧
    ∀ finding, rule.fire ctx lookup = .ok (.fired finding) →
      ∃ fs : Fields, rule.fields clauses ctx lookup = .ok fs ∧
        finding = rule.shown ctx.settings fs ∧
        ∀ id ∈ rule.kpiIds ++ clauses.map (·.kpiId), id ≠ "" →
          (lookup.result? (lower id)).isSome = true → ∀ f : KpiField,
            (rule.spelling? clauses id = some id →
              ¬ (f.IsPlain id ∧ rule.UnnamedAfter clauses lookup id) →
                fs.Shows (nameFor id f) ctx lookup id f) ∧
            (rule.spelling? clauses id ≠ some id → ¬ f.IsPlain id →
              nameFor id f ≠ "company_name" → fs.text? (nameFor id f) = none) := by
  have hmany := many_of_composite hkind clauses
  simp only [fire_eq_fired_iff hclauses hfires]
  refine ⟨exists_render_iff, fun finding hfinding => ?_⟩
  obtain ⟨fs, hfs, hshown⟩ := render_eq_ok_iff.1 hfinding
  refine ⟨fs, hfs, hshown, fun id _ hne hresult f => ⟨fun hfirst hplain => ?_, fun hother => ?_⟩⟩
  · have hid := (mem_shownIds_iff hmany).2 hfirst
    exact ((fields_nameFor hfs ⟨hmany, hne, hid, hresult⟩ f).1 hplain).shows
  · exact fields_other_spelling hmany hfs hother

/-- A rule that spells a KPI in one way among its ids and in another in its trigger. -/
def respelledRule : InsightRule where
  id := "respelled"
  kind := .composite
  kpiIds := ["Revenue"]
  trigger := "staff:any AND revenue:good+"
  summary := "\x7brevenue_formatted\x7d"

/-- The clauses of its trigger. -/
def respelledClauses : List Clause :=
  [⟨"staff", .any⟩, ⟨"revenue", .orBetter .good⟩]

/-- The ratings of its KPIs. -/
def respelledLookup : RatingLookup :=
  RatingRun.lookup ⟨[ratedGood "REVENUE" 5.0, ratedGood "staff" 6.0], []⟩

theorem respelledRule_clauses : respelledRule.clauses = .ok respelledClauses := by decide +kernel

theorem respelledRule_fires :
    Trigger.fires respelledClauses respelledLookup.rating? = true := by decide

/-- The spelling among the ids comes first, so the one in the trigger starts no names. -/
theorem fire_shows_first_spelling_respelled :
    respelledRule.kind = .composite ∧ respelledRule.clauses = .ok respelledClauses ∧
      Trigger.fires respelledClauses respelledLookup.rating? = true ∧
      ∃ finding fs, respelledRule.fire {} respelledLookup = .ok (.fired finding) ∧
        finding = respelledRule.shown {} fs ∧
        (∀ f, fs.Shows (nameFor "Revenue" f) {} respelledLookup "Revenue" f) ∧
        (∀ f, fs.Shows (nameFor "staff" f) {} respelledLookup "staff" f) ∧
        ∀ f, fs.text? (nameFor "revenue" f) = none := by
  have hkind : respelledRule.kind = .composite := rfl
  refine ⟨hkind, respelledRule_clauses, respelledRule_fires, ?_⟩
  obtain ⟨hwrites, hshows⟩ :=
    fire_shows_first_spelling hkind respelledRule_clauses respelledRule_fires {}
  have hplaces : Figure.Writable 2 := by decide
  obtain ⟨finding, hfinding⟩ := hwrites.2 fun _ _ _ => ⟨hplaces, hplaces⟩
  obtain ⟨fs, -, hshown, hnames⟩ := hshows finding hfinding
  refine ⟨finding, fs, hfinding, hshown, fun f => ?_, fun f => ?_, fun f => ?_⟩
  · refine (hnames "Revenue" (by decide) (by decide) (by decide) f).1
      (by decide) ?_
    exact fun h => KpiField.not_isPlain (by decide) (by decide) f h.1
  · refine (hnames "staff" (by decide) (by decide) (by decide) f).1 (by decide) ?_
    exact fun h => KpiField.not_isPlain (by decide) (by decide) f h.1
  · refine (hnames "revenue" (by decide) (by decide) (by decide) f).2
      (by decide) (KpiField.not_isPlain (by decide) (by decide) f) ?_
    cases f <;> decide

/-- The placeholder `revenue_formatted` stays empty, since the KPI is shown as `Revenue`. -/
theorem not_fire_shows_every_spelling : ¬ ∀ (rule : InsightRule) (clauses : List Clause)
    (ctx : Context) (lookup : RatingLookup) (fs : Fields), rule.kind = .composite →
    rule.clauses = .ok clauses → Trigger.fires clauses lookup.rating? = true →
    rule.fields clauses ctx lookup = .ok fs → ∀ id ∈ rule.kpiIds ++ clauses.map (·.kpiId),
      (lookup.result? (lower id)).isSome = true →
        ∀ f, fs.Shows (nameFor id f) ctx lookup id f := by
  intro h
  obtain ⟨fs, hfs⟩ : ∃ fs, respelledRule.fields respelledClauses {} respelledLookup = .ok fs :=
    exists_eq_ok (by decide +kernel)
  obtain ⟨result, d, -, -, hshown⟩ := h respelledRule _ {} _ fs rfl respelledRule_clauses
    respelledRule_fires hfs "revenue" (by decide) (by decide) .formatted
  have hempty : (respelledRule.fields respelledClauses {} respelledLookup).toOption.bind
      (fun fs => fs.text? (nameFor "revenue" .formatted)) = none := by decide +kernel
  rw [hfs] at hempty
  change fs.text? (nameFor "revenue" .formatted) = none at hempty
  rw [hempty] at hshown
  cases hshown

end InsightRule

end Scorecard
