import Scorecard.Proofs.Figure
import Scorecard.Proofs.Insight.Fields

/-!
# Which findings can be written

The figures of a rated KPI have the places of plain numbers or those of the KPI, and can be written
exactly if both are places that a figure may have. A rule can be rendered exactly if this holds of
every rated KPI that it shows, whatever the names of its fields are.
-/

namespace Scorecard

open Figure (Writable)
open Text (lower)

/-! ## Rated KPIs -/

theorem KpiField.exists_fields_iff {names : KpiField → String} {result : BenchmarkResult}
    {kpi : Kpi} {style : Figure.Style} :
    (∃ fs, fields names result kpi style = .ok fs) ↔
      ∀ f : KpiField, ∃ d, f.content result kpi style = .ok d := by
  constructor
  · rintro ⟨fs, hfs⟩ f
    obtain ⟨contents, hcontents, -⟩ := fields_eq_ok_iff.1 hfs
    exact ⟨contents f, hcontents f⟩
  · intro h
    choose contents hcontents using h
    exact ⟨_, fields_eq_ok_iff.2 ⟨contents, hcontents, rfl⟩⟩

/-- The fields of a KPI hold a rounded figure, with the places of a plain number, and figures in the
format of the KPI, with the places of the KPI. -/
theorem BenchmarkResult.exists_fields_iff {result : BenchmarkResult} {kpi : Kpi}
    {style : Figure.Style} {prefixId : String} :
    (∃ fs, result.fields kpi style prefixId = .ok fs) ↔
      Writable style.valuePlaces ∧ Writable (style.placesOf kpi) := by
  have hformat (x : Float) : (∃ d, (Figure.format style kpi x).map Datum.text = .ok d) ↔
      Writable (style.placesOf kpi) := by
    rw [exists_map_eq_ok_iff, Figure.exists_format_iff]
  have hrounded (x : Float) :
      (∃ d, (Figure.rounded x style.valuePlaces).map Datum.text = .ok d) ↔
        Writable style.valuePlaces := by
    rw [exists_map_eq_ok_iff, Figure.exists_rounded_iff]
  rw [fields, KpiField.exists_fields_iff]
  constructor
  · intro h
    exact ⟨(hrounded _).1 (h .rounded), (hformat _).1 (h .formatted)⟩
  · rintro ⟨hvalue, hkpi⟩ f
    cases f with
    | value | rating | name => exact ⟨_, rfl⟩
    | rounded => exact (hrounded _).2 hvalue
    | formatted | poor | average | good | excellent => exact (hformat _).2 hkpi

/-! ## Rules -/

/-- Whether the figures of a KPI can be written. -/
def Context.Writes (ctx : Context) (kpiId : String) : Prop :=
  Writable ctx.settings.style.valuePlaces ∧ Writable (ctx.settings.style.placesOf (ctx.kpi kpiId))

namespace InsightRule

variable {ctx : Context} {lookup : RatingLookup}

theorem exists_addKpi_iff {prefixId kpiId : String} {fields : Fields} :
    (∃ fs, addKpi ctx lookup prefixId fields kpiId = .ok fs) ↔
      ((lookup.result? (lower kpiId)).isSome = true → ctx.Writes kpiId) := by
  unfold addKpi
  cases lookup.result? (lower kpiId) with
  | none => simp
  | some result =>
    dsimp only
    rw [exists_map_eq_ok_iff, BenchmarkResult.exists_fields_iff]
    simp [Context.Writes]

theorem exists_addKpis_iff {ids : List String} {fields : Fields} :
    (∃ fs, ids.foldlM (fun fields id => addKpi ctx lookup id fields id) fields = .ok fs) ↔
      ∀ id ∈ ids, (lookup.result? (lower id)).isSome = true → ctx.Writes id := by
  induction ids generalizing fields with
  | nil => simp [pure, Except.pure]
  | cons id ids ih =>
    rw [List.foldlM_cons, List.forall_mem_cons]
    constructor
    · rintro ⟨fs, h⟩
      obtain ⟨next, hnext, hrest⟩ := bind_eq_ok_iff.1 h
      exact ⟨exists_addKpi_iff.1 ⟨next, hnext⟩, ih.1 ⟨fs, hrest⟩⟩
    · rintro ⟨hid, hids⟩
      obtain ⟨next, hnext⟩ := exists_addKpi_iff.2 hid
      obtain ⟨fs, hfs⟩ := ih.2 hids
      exact ⟨fs, bind_eq_ok_iff.2 ⟨next, hnext, hfs⟩⟩

/-- The ids under which a rule looks for the KPIs that it shows. -/
def shownIds (rule : InsightRule) (clauses : List Clause) : List String :=
  if rule.kind = .single ∧ clauses.length = 1 then clauses.map (·.kpiId)
  else distinctIds (rule.kpiIds ++ clauses.map (·.kpiId))

/-- A rule that shows several KPIs shows each of them once. -/
theorem shownIds_many {rule : InsightRule} {clauses : List Clause}
    (h : ¬ (rule.kind = .single ∧ clauses.length = 1)) :
    rule.shownIds clauses = distinctIds (rule.kpiIds ++ clauses.map (·.kpiId)) :=
  if_neg h

theorem exists_fields_iff {rule : InsightRule} {clauses : List Clause} :
    (∃ fields, rule.fields clauses ctx lookup = .ok fields) ↔
      ∀ id ∈ rule.shownIds clauses, (lookup.result? (lower id)).isSome = true → ctx.Writes id := by
  by_cases hone : rule.kind = .single ∧ clauses.length = 1
  · obtain ⟨clause, rfl⟩ := List.length_eq_one_iff.1 hone.2
    rw [shownIds, if_pos hone, fields_single hone.1, exists_addKpi_iff]
    simp
  · rw [shownIds_many hone, fields_many hone, exists_addKpis_iff]

theorem exists_render_iff {rule : InsightRule} {clauses : List Clause} :
    (∃ finding, rule.render clauses ctx lookup = .ok finding) ↔
      ∀ id ∈ rule.shownIds clauses, (lookup.result? (lower id)).isSome = true → ctx.Writes id := by
  rw [← exists_fields_iff]
  simp only [render_eq_ok_iff]
  constructor
  · rintro ⟨finding, fields, hfields, -⟩
    exact ⟨fields, hfields⟩
  · rintro ⟨fields, hfields⟩
    exact ⟨_, fields, hfields, rfl⟩

end InsightRule

end Scorecard
