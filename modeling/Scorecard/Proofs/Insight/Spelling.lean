import Scorecard.Proofs.Benchmark.Run
import Scorecard.Proofs.Insight.Order
import Scorecard.Proofs.Insight.Writing
import Scorecard.Proofs.Text.Case

/-!
# Insight rules with ids in other letter case

Insight rules look up ratings, benchmark results and definitions of KPIs by ids in lower case. A
rule whose ids are spelled in other letter case fires if and only if the rule itself does. Its text
is the same if the rule is about a single KPI with one clause; other rules show the fields of a KPI
under names that start with the id as it is spelled, so their text may differ.
-/

namespace Scorecard

open Text (lower)

/-- A clause with its KPI in lower case. -/
def Clause.folded (c : Clause) : Clause :=
  ⟨lower c.kpiId, c.condition⟩

/-- Two rules with readable triggers that differ in nothing but the spelling of KPIs. -/
structure InsightRule.Respelled (rule rule' : InsightRule) : Prop where
  /-- The rules agree in all but their KPIs and triggers. -/
  rest : rule' = { rule with kpiIds := rule'.kpiIds, trigger := rule'.trigger }
  /-- The KPIs are the same in lower case. -/
  kpiIds : rule.kpiIds.map lower = rule'.kpiIds.map lower
  /-- Both triggers can be read, and their clauses are the same in lower case. -/
  clauses : ∃ clauses clauses', rule.clauses = .ok clauses ∧ rule'.clauses = .ok clauses' ∧
    clauses.map Clause.folded = clauses'.map Clause.folded

/-! ## Definitions of KPIs -/

/-- A definition is kept under its id in lower case. -/
theorem Context.mem_indexKpis {kpis : List Kpi} {entry : String × Kpi}
    (h : entry ∈ indexKpis kpis) : ∃ k ∈ kpis, entry = (lower k.id, k) := by
  have hfold (kpis : List Kpi) (index : List (String × Kpi))
      (h : entry ∈ kpis.foldl (fun index k => Assoc.putNew (lower k.id) k index) index) :
      entry ∈ index ∨ ∃ k ∈ kpis, entry = (lower k.id, k) := by
    induction kpis generalizing index with
    | nil => exact .inl h
    | cons k kpis ih =>
      rcases ih _ h with h | ⟨k', hk', hentry⟩
      · refine (Assoc.mem_putNew h).imp_right fun hentry => ?_
        exact ⟨k, List.mem_cons_self, hentry⟩
      · exact .inr ⟨k', List.mem_cons_of_mem _ hk', hentry⟩
  exact (hfold kpis [] h).resolve_left List.not_mem_nil

theorem Context.indexKpis_keys (kpis : List Kpi) :
    ∀ key ∈ (indexKpis kpis).map Prod.fst, lower key = key := by
  intro key hkey
  obtain ⟨entry, hentry, rfl⟩ := List.mem_map.1 hkey
  obtain ⟨k, -, rfl⟩ := mem_indexKpis hentry
  exact Text.lower_lower k.id

/-- Definitions under ids in lower case are found under the lower-case form of an id. -/
theorem lookup_orElse_lower {kpis : List (String × Kpi)}
    (hkeys : ∀ key ∈ kpis.map Prod.fst, lower key = key) (id : String) :
    (kpis.lookup id <|> kpis.lookup (lower id)) = kpis.lookup (lower id) := by
  cases h : kpis.lookup id with
  | none => rfl
  | some k =>
    obtain ⟨front, back, rfl, -⟩ := List.lookup_eq_some_iff.1 h
    have hid : lower id = id := hkeys id (by simp)
    rw [hid, h]
    rfl

/-- A KPI with a reading has the same definition in any letter case. -/
theorem Context.kpi_respelled {ctx : Context}
    (hkeys : ∀ key ∈ ctx.kpis.map Prod.fst, lower key = key) {a b : String}
    (h : lower a = lower b) (hreading : (ctx.readings.find? a).isSome = true) :
    ctx.kpi a = ctx.kpi b := by
  have hfind := ctx.readings.find?_respelled h.symm
  obtain ⟨reading, hreading⟩ := Option.isSome_iff_exists.1 hreading
  rw [kpi, kpi, lookup_orElse_lower hkeys, lookup_orElse_lower hkeys, ← h, hfind, hreading]
  rfl

/-! ## Fields -/

/-- The letter case of an id does not matter to the definition of a KPI that has a result. -/
def IgnoresCase (ctx : Context) (lookup : RatingLookup) : Prop :=
  ∀ a b, lower a = lower b → (lookup.result? (lower a)).isSome = true → ctx.kpi a = ctx.kpi b

/-- What was rated comes from a reading, so definitions are found for it in any letter case. -/
theorem RatingRun.ignoresCase {selection : Selection} {ctx : Context} {run : RatingRun}
    (hrun : selection.rateAll ctx = .ok run) (hreadings : ctx.readings.WellFormed)
    (hkeys : ∀ key ∈ ctx.kpis.map Prod.fst, lower key = key) : IgnoresCase ctx run.lookup := by
  intro a b h hresult
  refine Context.kpi_respelled hkeys h ?_
  obtain ⟨result, hresult⟩ := Option.isSome_iff_exists.1 hresult
  obtain ⟨hmem, hid⟩ :=
    (lookup_result?_eq_some_iff (Selection.rateAll_nodup hrun hreadings)).1 hresult
  have hsource := (Selection.rateAll_sublist hrun).subset (List.mem_map_of_mem hmem)
  obtain ⟨reading, hreading, heq⟩ := List.mem_map.1 hsource
  have hkey : reading.key = Text.fold a := by
    rw [hreadings.key reading hreading, ← hreadings.trimmed reading hreading]
    exact Text.fold_congr (heq ▸ hid)
  exact List.find?_isSome.2 ⟨reading, hreading, decide_eq_true hkey⟩

namespace InsightRule

variable {ctx : Context} {lookup : RatingLookup}

/-- Under plain names the fields do not show how a KPI is spelled. -/
theorem addKpi_respelled (hcase : IgnoresCase ctx lookup) {a b : String} (h : lower a = lower b)
    (prefixId : String) (fields : Fields) :
    addKpi ctx lookup prefixId fields a = addKpi ctx lookup prefixId fields b := by
  unfold addKpi
  rw [← h]
  cases hresult : lookup.result? (lower a) with
  | none => rfl
  | some result =>
    dsimp only
    rw [hcase a b h (by rw [hresult, Option.isSome_some])]

/-- Whether KPIs can be shown does not depend on their spelling. -/
theorem addKpis_ok (hcase : IgnoresCase ctx lookup) {ids ids' : List String}
    (hids : ids.map lower = ids'.map lower) {fields fs : Fields} (fields' : Fields)
    (h : ids.foldlM (fun fields id => addKpi ctx lookup id fields id) fields = .ok fs) :
    ∃ fs', ids'.foldlM (fun fields id => addKpi ctx lookup id fields id) fields' = .ok fs' := by
  have hwrites := exists_addKpis_iff.1 ⟨fs, h⟩
  rw [exists_addKpis_iff]
  intro id hid hthere
  have hkey : lower id ∈ ids.map lower := by
    rw [hids]
    exact List.mem_map_of_mem hid
  obtain ⟨other, hother, hlower⟩ := List.mem_map.1 hkey
  rw [← hlower] at hthere
  rw [Context.Writes, ← hcase other id hlower hthere]
  exact hwrites other hother hthere

end InsightRule

/-- Which ids are kept does not depend on their spelling. -/
theorem distinctIds_map_lower {ids ids' : List String} (h : ids.map lower = ids'.map lower) :
    (distinctIds ids).map lower = (distinctIds ids').map lower := by
  have hfold (kept kept' : List String) (hkept : kept.map lower = kept'.map lower) :
      (ids.foldl (fun kept id =>
        if kept.any (lower · = lower id) then kept else kept ++ [id]) kept).map lower =
      (ids'.foldl (fun kept id =>
        if kept.any (lower · = lower id) then kept else kept ++ [id]) kept').map lower := by
    induction ids generalizing ids' kept kept' with
    | nil =>
      obtain rfl := List.map_eq_nil_iff.1 h.symm
      exact hkept
    | cons a ids ih =>
      obtain ⟨b, ids', rfl, hab, hids'⟩ := List.map_eq_cons_iff.1 h.symm
      have hany : kept.any (lower · = lower a) = kept'.any (lower · = lower b) := by
        have hviews := congrArg (List.any · fun key => decide (key = lower a)) hkept
        simp only [List.any_map] at hviews
        rw [hab]
        exact hviews
      refine ih hids'.symm _ _ ?_
      dsimp only
      rw [hany]
      split
      · exact hkept
      · rw [List.map_append, List.map_append, hkept, List.map_singleton, List.map_singleton, hab]
  exact hfold [] [] rfl

namespace InsightRule

variable {ctx : Context} {lookup : RatingLookup}

/-- The fields of a re-spelled rule. They are the same if the rule is about a single KPI and has one
clause. -/
theorem fields_respelled (hcase : IgnoresCase ctx lookup) (rule rule' : InsightRule)
    (hsame : rule'.kind = rule.kind) (hids : rule.kpiIds.map lower = rule'.kpiIds.map lower)
    {clauses clauses' : List Clause}
    (hclauses : clauses.map Clause.folded = clauses'.map Clause.folded) {fs : Fields}
    (h : rule.fields clauses ctx lookup = .ok fs) :
    ∃ fs', rule'.fields clauses' ctx lookup = .ok fs' ∧
      (rule.kind = .single → clauses.length = 1 → fs' = fs) := by
  have hlength : clauses.length = clauses'.length := by
    simpa only [List.length_map] using congrArg List.length hclauses
  by_cases hone : rule.kind = .single ∧ clauses.length = 1
  · obtain ⟨hkind, hcount⟩ := hone
    obtain ⟨clause, rfl⟩ := List.length_eq_one_iff.1 hcount
    obtain ⟨clause', rfl⟩ := List.length_eq_one_iff.1 (hlength ▸ hcount)
    have hid : lower clause.kpiId = lower clause'.kpiId :=
      congrArg Clause.kpiId (List.cons.inj hclauses).1
    rw [fields_single hkind, addKpi_respelled hcase hid] at h
    refine ⟨fs, ?_, fun _ _ => rfl⟩
    rw [fields_single (hsame.trans hkind), h]
  · have hkpis : clauses.map (lower ·.kpiId) = clauses'.map (lower ·.kpiId) := by
      have := congrArg (List.map Clause.kpiId) hclauses
      rwa [List.map_map, List.map_map] at this
    have hall : (rule.kpiIds ++ clauses.map (·.kpiId)).map lower =
        (rule'.kpiIds ++ clauses'.map (·.kpiId)).map lower := by
      rw [List.map_append, List.map_append, List.map_map, List.map_map, hids]
      exact congrArg _ hkpis
    rw [fields_many hone] at h
    obtain ⟨fs', hfs'⟩ := addKpis_ok hcase (distinctIds_map_lower hall) ctx.client.fields h
    refine ⟨fs', ?_, fun hkind hcount => absurd ⟨hkind, hcount⟩ hone⟩
    rw [fields_many (by rwa [hsame, ← hlength]), hfs']

/-- A re-spelled rule comes to a finding at the same place. -/
theorem render_respelled (hcase : IgnoresCase ctx lookup) {rule : InsightRule}
    {kpiIds : List String} (hids : rule.kpiIds.map lower = kpiIds.map lower) (trigger : String)
    {clauses clauses' : List Clause}
    (hclauses : clauses.map Clause.folded = clauses'.map Clause.folded) {finding : Finding}
    (h : rule.render clauses ctx lookup = .ok finding) :
    ∃ finding', ({ rule with kpiIds, trigger } : InsightRule).render clauses' ctx lookup =
        .ok finding' ∧ finding'.id = finding.id ∧ finding.SamePlace finding' ∧
      (rule.kind = .single → clauses.length = 1 → finding' = finding) := by
  obtain ⟨fs, hfs, h⟩ := bind_eq_ok_iff.1 h
  obtain rfl := Except.ok.inj h
  obtain ⟨fs', hfs', hsame⟩ :=
    fields_respelled hcase rule { rule with kpiIds, trigger } rfl hids hclauses hfs
  refine ⟨_, bind_eq_ok_iff.2 ⟨fs', hfs', rfl⟩, rfl, ⟨rfl, rfl, rfl⟩, fun hkind hcount => ?_⟩
  rw [hsame hkind hcount]
  rfl

end InsightRule

/-! ## Firing -/

/-- Whether clauses hold does not depend on the spelling of their KPIs. -/
theorem Trigger.fires_folded {clauses clauses' : List Clause}
    (h : clauses.map Clause.folded = clauses'.map Clause.folded)
    (rating? : String → Option Rating) : fires clauses rating? = fires clauses' rating? := by
  have := congrArg (List.all · fun c => c.condition.holdsFor (rating? c.kpiId)) h
  rwa [List.all_map, List.all_map] at this

/-- What a rule and its re-spelling come to: both fire and their findings stand at the same place,
or neither fires. Where a single KPI is shown by one clause, the findings are the same. -/
def Counterparts (ctx : Context) (lookup : RatingLookup) (rule rule' : InsightRule)
    (f f' : Finding) : Prop :=
  rule.fire ctx lookup = .ok (.fired f) ∧ rule'.fire ctx lookup = .ok (.fired f') ∧
    f'.id = f.id ∧ f.SamePlace f' ∧
    (rule.kind = .single → ∀ clause, rule.clauses = .ok [clause] → f' = f)

theorem InsightRule.Respelled.fire {ctx : Context} {lookup : RatingLookup}
    (hcase : IgnoresCase ctx lookup) {rule rule' : InsightRule} (h : rule.Respelled rule')
    {a : Firing} (ha : rule.fire ctx lookup = .ok a) :
    (a = .silent ∧ rule'.fire ctx lookup = .ok .silent) ∨
      ∃ f f', a = .fired f ∧ Counterparts ctx lookup rule rule' f f' := by
  obtain ⟨clauses, clauses', hclauses, hclauses', hfolded⟩ := h.clauses
  have hfires := Trigger.fires_folded hfolded lookup.rating?
  have hfire : rule.fire ctx lookup =
      if Trigger.fires clauses lookup.rating? then
        (rule.render clauses ctx lookup).map .fired else .ok .silent := by
    rw [InsightRule.fire, hclauses]
  have hfire' : rule'.fire ctx lookup =
      if Trigger.fires clauses lookup.rating? then
        (rule'.render clauses' ctx lookup).map .fired else .ok .silent := by
    rw [InsightRule.fire, hclauses', hfires]
  have ha' := ha
  rw [hfire] at ha'
  by_cases hon : Trigger.fires clauses lookup.rating? = true
  · rw [if_pos hon] at ha' hfire'
    obtain ⟨f, hf, rfl⟩ := map_eq_ok_iff.1 ha'
    obtain ⟨f', hf', hid, hplace, hsame⟩ :=
      InsightRule.render_respelled hcase h.kpiIds rule'.trigger hfolded hf
    rw [← h.rest] at hf'
    refine .inr ⟨f, f', rfl, ha, ?_, hid, hplace, fun hkind clause hone => ?_⟩
    · rw [hfire', hf']
      rfl
    · rw [hclauses] at hone
      obtain rfl := Except.ok.inj hone
      exact hsame hkind rfl
  · rw [if_neg hon] at ha' hfire'
    exact .inl ⟨(Except.ok.inj ha').symm, hfire'⟩

end Scorecard
