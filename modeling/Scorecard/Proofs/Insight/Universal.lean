import Scorecard.Proofs.Insight.Prefixes

/-!
# The fields of the client

The templates of every rule may show the name, the industry and the state of the client. No KPI has
a field under one of the last two names. The first one is also the name of a KPI with the id
`company`, as a rule on several KPIs shows it, and such a rule shows it in place of the client's.
-/

namespace Scorecard

open Text (lower)
open KpiField (nameFor)

/-- A field with a text. -/
theorem Fields.text?_of_lookup {fields : Fields} {name text : String}
    (h : fields.lookup name = some (.text text)) : fields.text? name = some text := by
  rw [text?, h]
  rfl

namespace KpiField

theorem plainName_ne_client (f : KpiField) :
    plainName f ≠ "company_name" ∧ plainName f ≠ "industry" ∧ plainName f ≠ "state" := by
  cases f <;> decide

/-- A name that starts with an id has an underscore. -/
theorem nameFor_ne {name : String} (h : '_' ∉ name.toList) (id : String) (f : KpiField) :
    nameFor id f ≠ name := by
  rintro rfl
  rw [toList_nameFor] at h
  exact h (List.mem_append_right _ List.mem_cons_self)

theorem nameFor_eq_companyName_iff {id : String} {f : KpiField} :
    nameFor id f = "company_name" ↔ id = "company" ∧ f = .name := by
  have hcompany : nameFor "company" .name = "company_name" := by decide
  constructor
  · intro h
    exact nameFor_inj (h.trans hcompany.symm)
  · rintro ⟨rfl, rfl⟩
    exact hcompany

end KpiField

namespace InsightRule

section Client

variable {rule : InsightRule} {ctx : Context} {lookup : RatingLookup} {clauses : List Clause}
  {fs : Fields}

theorem fields_industry (h : rule.fields clauses ctx lookup = .ok fs) :
    fs.text? "industry" = some ctx.client.industry := by
  refine Fields.text?_of_lookup ?_
  rw [fields_unset h (fun f => (KpiField.plainName_ne_client f).2.1)
    fun id _ => KpiField.nameFor_ne (by decide) id]
  rfl

theorem fields_state (h : rule.fields clauses ctx lookup = .ok fs) :
    fs.text? "state" = some ctx.client.region := by
  refine Fields.text?_of_lookup ?_
  rw [fields_unset h (fun f => (KpiField.plainName_ne_client f).2.2)
    fun id _ => KpiField.nameFor_ne (by decide) id]
  rfl

theorem fields_companyName (h : rule.fields clauses ctx lookup = .ok fs) :
    fs.text? "company_name" = some (if rule.StartsNames clauses lookup "company"
      then (ctx.kpi "company").displayName else ctx.client.companyName) := by
  refine Fields.text?_of_lookup ?_
  split
  · rename_i hcompany
    obtain ⟨result, d, -, hd, hlookup⟩ := (fields_nameFor h hcompany .name).1
      fun hplain => KpiField.not_isPlain (by decide) (by decide) _ hplain.1
    obtain rfl := Except.ok.inj hd
    exact hlookup
  · rename_i hcompany
    rw [fields_unset h fun f => (KpiField.plainName_ne_client f).1]
    · rfl
    · intro id hid f hname
      exact hcompany ((KpiField.nameFor_eq_companyName_iff.1 hname).1 ▸ hid)

end Client

/-- Whatever KPIs a rule is about, its texts show the client's own industry and state, and the
client's own name unless the rule shows a rated KPI under names that start with `company`; then they
show the name of that KPI. The rule can be rendered exactly if the figures of the rated KPIs that it
shows can be written. -/
theorem render_shows_client (rule : InsightRule) (clauses : List Clause) (ctx : Context)
    (lookup : RatingLookup) :
    ((∃ finding, rule.render clauses ctx lookup = .ok finding) ↔
      ∀ id ∈ rule.shownIds clauses, (lookup.result? (lower id)).isSome = true → ctx.Writes id) ∧
    ∀ finding, rule.render clauses ctx lookup = .ok finding →
      ∃ fs : Fields, finding = rule.shown ctx.settings fs ∧
        fs.text? "company_name" = some (if rule.StartsNames clauses lookup "company"
          then (ctx.kpi "company").displayName else ctx.client.companyName) ∧
        fs.text? "industry" = some ctx.client.industry ∧
        fs.text? "state" = some ctx.client.region := by
  refine ⟨exists_render_iff, fun finding hfinding => ?_⟩
  obtain ⟨fs, hfs, hshown⟩ := render_eq_ok_iff.1 hfinding
  exact ⟨fs, hshown, fields_companyName hfs, fields_industry hfs, fields_state hfs⟩

/-- A rule on a KPI with the id `company`. -/
def companyRule : InsightRule where
  id := "company"
  kind := .composite
  kpiIds := ["company"]
  trigger := "company:any"
  summary := "\x7bcompany_name\x7d"

/-- The firm Acme is called `company`, since this is the name of the KPI. -/
theorem not_render_shows_client : ¬ ∀ (rule : InsightRule) (clauses : List Clause) (ctx : Context)
    (lookup : RatingLookup) (finding : Finding), rule.clauses = .ok clauses →
    rule.render clauses ctx lookup = .ok finding → rule.summary = "\x7bcompany_name\x7d" →
    finding.summary = ctx.client.companyName := by
  intro h
  let ctx : Context := { client := { companyName := "Acme" } }
  let lookup : RatingLookup := RatingRun.lookup ⟨[ratedGood "company" 5.0], []⟩
  have hclauses : companyRule.clauses = .ok [⟨"company", .any⟩] := by decide +kernel
  obtain ⟨finding, hfinding⟩ : ∃ finding, companyRule.render [⟨"company", .any⟩] ctx lookup =
      .ok finding := exists_eq_ok (by decide +kernel)
  have hsummary : (companyRule.render [⟨"company", .any⟩] ctx lookup).map Finding.summary =
      .ok "company" := by decide +kernel
  rw [hfinding] at hsummary
  have hclient := h companyRule _ ctx lookup finding hclauses hfinding rfl
  have hsame : "company" = "Acme" := (Except.ok.inj hsummary).symm.trans hclient
  revert hsame
  decide

end InsightRule

end Scorecard
