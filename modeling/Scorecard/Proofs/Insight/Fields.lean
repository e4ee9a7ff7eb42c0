import Scorecard.Proofs.Assoc
import Scorecard.Proofs.Insight.Run
import Mathlib.Data.List.Induction

/-!
# The fields that a rule shows

A field of a rated KPI has a plain name, or a name that is joined from the id of the KPI and a stem.
Joined names are unambiguous: no stem ends in an underscore and another stem, so a name tells both
the id and the stem. A rule on several KPIs therefore shows all nine fields of each of them, and the
fields of one are not touched by those of the others.
-/

namespace Scorecard

open Text (lower)

/-! ## Names -/

namespace KpiField

theorem mem_all (field : KpiField) : field ∈ all := by
  cases field <;> decide

/-- The part of a joined name that follows the id. -/
def ending (field : KpiField) : List Char :=
  '_' :: field.stem.toList

theorem eq_of_ending_suffix {f g : KpiField} (h : f.ending <:+ g.ending) : f = g := by
  have hall : ∀ f ∈ all, ∀ g ∈ all, f.ending <:+ g.ending → f = g := by decide
  exact hall f (mem_all f) g (mem_all g) h

theorem toList_nameFor (id : String) (f : KpiField) :
    (nameFor id f).toList = id.toList ++ f.ending := by
  simp [nameFor, ending]

theorem nameFor_inj {a b : String} {f g : KpiField} (h : nameFor a f = nameFor b g) :
    a = b ∧ f = g := by
  have hchars : a.toList ++ f.ending = b.toList ++ g.ending := by
    rw [← toList_nameFor, ← toList_nameFor, h]
  have hf : f.ending <:+ b.toList ++ g.ending := ⟨a.toList, hchars⟩
  have hg : g.ending <:+ b.toList ++ g.ending := ⟨b.toList, rfl⟩
  have hfield : f = g := by
    -- Of two suffixes of one text one is a suffix of the other.
    rcases List.suffix_or_suffix_of_suffix hf hg with hsuffix | hsuffix
    · exact eq_of_ending_suffix hsuffix
    · exact (eq_of_ending_suffix hsuffix).symm
  rw [hfield] at hchars
  exact ⟨String.toList_inj.1 (List.append_cancel_right hchars), hfield⟩

theorem plainName_inj {f g : KpiField} (h : plainName f = plainName g) : f = g := by
  have hall : ∀ f ∈ all, ∀ g ∈ all, plainName f = plainName g → f = g := by decide
  exact hall f (mem_all f) g (mem_all g) h

/-- The names of the fields of one KPI: plain without an id, and joined with one. -/
def naming (prefixId : String) : KpiField → String :=
  if prefixId.isEmpty then plainName else nameFor prefixId

theorem naming_of_ne {id : String} (h : id ≠ "") : naming id = nameFor id :=
  if_neg fun hempty => h (String.isEmpty_iff.1 hempty)

theorem naming_inj {prefixId : String} {f g : KpiField}
    (h : naming prefixId f = naming prefixId g) : f = g := by
  unfold naming at h
  split at h
  · exact plainName_inj h
  · exact (nameFor_inj h).2

/-! ## Contents -/

/-- The fields of a KPI are its contents under their names. -/
theorem fields_eq_ok_iff {names : KpiField → String} {result : BenchmarkResult} {kpi : Kpi}
    {style : Figure.Style} {fs : Fields} :
    fields names result kpi style = .ok fs ↔ ∃ contents : KpiField → Datum,
      (∀ f : KpiField, f.content result kpi style = .ok (contents f)) ∧
        fs = all.map fun f => (names f, contents f) := by
  have hfields (contents : KpiField → Datum)
      (h : ∀ f : KpiField, f.content result kpi style = .ok (contents f)) :
      fields names result kpi style = .ok (all.map fun f => (names f, contents f)) := by
    refine mapM_eq_ok_iff.2 ?_
    rw [List.forall₂_map_right_iff, List.forall₂_same]
    exact fun f _ => map_eq_ok_iff.2 ⟨contents f, h f, rfl⟩
  constructor
  · intro h
    have hone (f : KpiField) : ∃ d, f.content result kpi style = .ok d := by
      obtain ⟨entry, hentry⟩ := exists_of_mapM_eq_ok h (mem_all f)
      obtain ⟨d, hd, -⟩ := map_eq_ok_iff.1 hentry
      exact ⟨d, hd⟩
    choose contents hcontents using hone
    exact ⟨contents, hcontents, Except.ok.inj (h.symm.trans (hfields contents hcontents))⟩
  · rintro ⟨contents, hcontents, rfl⟩
    exact hfields contents hcontents

end KpiField

namespace Fields

/-- Whether fields hold the nine contents of a rated KPI under the given names. -/
def Show (fields : Fields) (names : KpiField → String) (result : BenchmarkResult) (kpi : Kpi)
    (style : Figure.Style) : Prop :=
  ∀ f : KpiField, ∃ d, f.content result kpi style = .ok d ∧ fields.lookup (names f) = some d

theorem lookup_update (fields others : Fields) (name : String) :
    (fields.update others).lookup name =
      ((others.filter (·.1 = name)).getLast?.map Prod.snd).or (fields.lookup name) :=
  Assoc.lookup_foldl_entries others fields name

theorem lookup_update_other {fields others : Fields} {name : String}
    (h : ∀ entry ∈ others, entry.1 ≠ name) :
    (fields.update others).lookup name = fields.lookup name := by
  have hnone : others.filter (·.1 = name) = [] :=
    List.filter_eq_nil_iff.2 fun entry hentry => by simpa using h entry hentry
  rw [lookup_update, hnone]
  rfl

theorem lookup_update_contents {names : KpiField → String}
    (hnames : ∀ f g, names f = names g → f = g) (fields : Fields) (contents : KpiField → Datum)
    (f : KpiField) :
    (fields.update (KpiField.all.map fun g => (names g, contents g))).lookup (names f) =
      some (contents f) := by
  -- No later entry overwrites a content, since the other names are different.
  have hone : KpiField.all.filter (fun g => decide (names g = names f)) = [f] := by
    have hsame : ∀ g ∈ KpiField.all, decide (names g = names f) = decide (g = f) := fun g _ =>
      decide_eq_decide.2 ⟨hnames g f, fun h => h ▸ rfl⟩
    rw [List.filter_congr hsame]
    cases f <;> decide
  rw [lookup_update, List.filter_map]
  change (((KpiField.all.filter fun g => decide (names g = names f)).map _).getLast?.map _).or _ = _
  rw [hone]
  rfl

end Fields

/-! ## Ids without repetitions -/

theorem distinctIds_concat (ids : List String) (id : String) :
    distinctIds (ids ++ [id]) =
      if (distinctIds ids).any (lower · = lower id) then distinctIds ids
      else distinctIds ids ++ [id] := by
  rw [distinctIds, List.foldl_append]
  rfl

/-- The ids that are kept are first spellings. -/
theorem find?_distinctIds (ids : List String) (key : String) :
    (distinctIds ids).find? (lower · = key) = ids.find? (lower · = key) := by
  -- Ids are collected from the front, so the induction takes them off at the end.
  induction ids using List.reverseRecOn with
  | nil => rfl
  | append_singleton ids id ih =>
    rw [distinctIds_concat, List.find?_append, ← ih]
    split
    · rename_i hseen
      obtain ⟨kept, hkept, hid⟩ := List.any_eq_true.1 hseen
      by_cases hkey : lower id = key
      · have hfound : ((distinctIds ids).find? (lower · = key)).isSome = true :=
          List.find?_isSome.2 ⟨kept, hkept, by simpa [hkey] using hid⟩
        rw [Option.or_of_isSome hfound]
      · simp [hkey]
    · rw [List.find?_append]

theorem nodup_distinctIds (ids : List String) : ((distinctIds ids).map lower).Nodup := by
  induction ids using List.reverseRecOn with
  | nil => exact List.nodup_nil
  | append_singleton ids id ih =>
    rw [distinctIds_concat]
    split
    · exact ih
    · rename_i hnew
      rw [List.map_append, List.nodup_append]
      refine ⟨ih, List.nodup_singleton _, ?_⟩
      rintro key hkey _ hlast rfl
      obtain ⟨kept, hkept, rfl⟩ := List.mem_map.1 hkey
      refine hnew (List.any_eq_true.2 ⟨kept, hkept, ?_⟩)
      simpa using hlast

/-! ## The fields of a rule -/

/-- Whether a KPI has a result and, shown under its id, a field of the given name. -/
def RatingLookup.Sets (lookup : RatingLookup) (kpiId name : String) : Prop :=
  (lookup.result? (lower kpiId)).isSome = true ∧ ∃ f, KpiField.naming kpiId f = name

namespace InsightRule

variable {rule : InsightRule} {ctx : Context} {lookup : RatingLookup} {clauses : List Clause}

/-- A rule on a single KPI with one clause shows that KPI under plain names. -/
theorem fields_single {rule : InsightRule} (hkind : rule.kind = .single) (clause : Clause) :
    rule.fields [clause] ctx lookup = addKpi ctx lookup "" ctx.client.fields clause.kpiId := by
  unfold fields
  rw [hkind]

/-- Every other rule shows its KPIs under their ids. -/
theorem fields_many {rule : InsightRule} {clauses : List Clause}
    (h : ¬ (rule.kind = .single ∧ clauses.length = 1)) :
    rule.fields clauses ctx lookup =
      (distinctIds (rule.kpiIds ++ clauses.map (·.kpiId))).foldlM
        (fun fields kpiId => addKpi ctx lookup kpiId fields kpiId) ctx.client.fields := by
  unfold fields
  split
  · rename_i hkind
    exact absurd ⟨hkind, rfl⟩ h
  · rfl

theorem addKpi_show {prefixId kpiId : String} {fields fs : Fields} {result : BenchmarkResult}
    (hresult : lookup.result? (lower kpiId) = some result)
    (h : addKpi ctx lookup prefixId fields kpiId = .ok fs) :
    fs.Show (KpiField.naming prefixId) result (ctx.kpi kpiId) ctx.settings.style := by
  unfold addKpi at h
  rw [hresult] at h
  obtain ⟨others, hothers, rfl⟩ := map_eq_ok_iff.1 h
  obtain ⟨contents, hcontents, rfl⟩ := KpiField.fields_eq_ok_iff.1 hothers
  exact fun f => ⟨contents f, hcontents f,
    Fields.lookup_update_contents (fun _ _ => KpiField.naming_inj) fields contents f⟩

theorem addKpi_other {prefixId kpiId : String} {fields fs : Fields} {name : String}
    (hname : (lookup.result? (lower kpiId)).isSome = true →
      ∀ f, KpiField.naming prefixId f ≠ name)
    (h : addKpi ctx lookup prefixId fields kpiId = .ok fs) :
    fs.lookup name = fields.lookup name := by
  unfold addKpi at h
  cases hresult : lookup.result? (lower kpiId) with
  | none =>
    rw [hresult] at h
    obtain rfl := Except.ok.inj h
    rfl
  | some result =>
    rw [hresult] at h
    obtain ⟨others, hothers, rfl⟩ := map_eq_ok_iff.1 h
    obtain ⟨contents, -, rfl⟩ := KpiField.fields_eq_ok_iff.1 hothers
    refine Fields.lookup_update_other fun entry hentry => ?_
    obtain ⟨f, -, rfl⟩ := List.mem_map.1 hentry
    exact hname (by rw [hresult, Option.isSome_some]) f

section Many

variable {ids : List String} {fields fs : Fields}

/-- A name that no KPI sets keeps what it had. -/
theorem addKpis_unset {name : String} (hunset : ∀ id ∈ ids, ¬ lookup.Sets id name)
    (h : ids.foldlM (fun fields id => addKpi ctx lookup id fields id) fields = .ok fs) :
    fs.lookup name = fields.lookup name := by
  induction ids generalizing fields with
  | nil =>
    obtain rfl := Except.ok.inj h
    rfl
  | cons id ids ih =>
    rw [List.foldlM_cons] at h
    obtain ⟨next, hnext, h⟩ := bind_eq_ok_iff.1 h
    obtain ⟨hid, hids⟩ := List.forall_mem_cons.1 hunset
    rw [ih hids h]
    exact addKpi_other (fun hrated f hname => hid ⟨hrated, f, hname⟩) hnext

/-- Of the KPIs that set a name the last one keeps it. -/
theorem addKpis_last {before after : List String} {id : String} {result : BenchmarkResult}
    (hresult : lookup.result? (lower id) = some result) {f : KpiField}
    (hafter : ∀ other ∈ after, ¬ lookup.Sets other (KpiField.naming id f))
    (h : (before ++ id :: after).foldlM (fun fields id => addKpi ctx lookup id fields id) fields =
      .ok fs) :
    ∃ d, f.content result (ctx.kpi id) ctx.settings.style = .ok d ∧
      fs.lookup (KpiField.naming id f) = some d := by
  rw [List.foldlM_append] at h
  obtain ⟨start, -, h⟩ := bind_eq_ok_iff.1 h
  rw [List.foldlM_cons] at h
  obtain ⟨next, hnext, hrest⟩ := bind_eq_ok_iff.1 h
  obtain ⟨d, hd, hlookup⟩ := addKpi_show hresult hnext f
  exact ⟨d, hd, (addKpis_unset hafter hrest).trans hlookup⟩

theorem addKpis_show (hnamed : ∀ id, (lookup.result? (lower id)).isSome = true → id ≠ "")
    {id : String} {result : BenchmarkResult} (hnodup : ids.Nodup)
    (hid : id ∈ ids) (hresult : lookup.result? (lower id) = some result)
    (h : ids.foldlM (fun fields id => addKpi ctx lookup id fields id) fields = .ok fs) :
    fs.Show (KpiField.nameFor id) result (ctx.kpi id) ctx.settings.style := by
  intro f
  obtain ⟨before, after, rfl⟩ := List.append_of_mem hid
  obtain ⟨hnew, -⟩ := List.nodup_cons.1 (List.nodup_append.1 hnodup).2.1
  have hne : id ≠ "" := hnamed id (by rw [hresult, Option.isSome_some])
  rw [← KpiField.naming_of_ne hne]
  refine addKpis_last hresult (fun other hother hsets => ?_) h
  obtain ⟨hrated, g, hname⟩ := hsets
  rw [KpiField.naming_of_ne hne, KpiField.naming_of_ne (hnamed other hrated)] at hname
  exact hnew ((KpiField.nameFor_inj hname).1 ▸ hother)

end Many

/-- The spelling under which a rule on several KPIs shows a KPI: the first that it meets among its
own ids and then among those of its clauses. -/
def spelling? (rule : InsightRule) (clauses : List Clause) (kpiId : String) : Option String :=
  (rule.kpiIds ++ clauses.map (·.kpiId)).find? (lower · = lower kpiId)

theorem exists_spelling (rule : InsightRule) {c : Clause} (hc : c ∈ clauses) :
    ∃ spelling, rule.spelling? clauses c.kpiId = some spelling ∧
      lower spelling = lower c.kpiId := by
  have hfound : (rule.spelling? clauses c.kpiId).isSome = true := by
    refine List.find?_isSome.2 ⟨c.kpiId, ?_, decide_eq_true rfl⟩
    exact List.mem_append_right _ (List.mem_map_of_mem hc)
  obtain ⟨spelling, hspelling⟩ := Option.isSome_iff_exists.1 hfound
  refine ⟨spelling, hspelling, ?_⟩
  unfold spelling? at hspelling
  simpa using List.find?_some hspelling

/-- A rule shows all fields of a rated KPI of one of its clauses: under plain names if it is on a
single KPI and has one clause, and else under names that start with the KPI's first spelling. -/
theorem fields_show (hnamed : ∀ id, (lookup.result? (lower id)).isSome = true → id ≠ "")
    {fs : Fields} (h : rule.fields clauses ctx lookup = .ok fs) {c : Clause} (hc : c ∈ clauses)
    {result : BenchmarkResult} (hresult : lookup.result? (lower c.kpiId) = some result) :
    if rule.kind = .single ∧ clauses.length = 1 then
      fs.Show KpiField.plainName result (ctx.kpi c.kpiId) ctx.settings.style
    else ∃ spelling, rule.spelling? clauses c.kpiId = some spelling ∧
      fs.Show (KpiField.nameFor spelling) result (ctx.kpi spelling) ctx.settings.style := by
  split
  · rename_i hone
    obtain ⟨clause, rfl⟩ := List.length_eq_one_iff.1 hone.2
    obtain rfl := List.mem_singleton.1 hc
    rw [fields_single hone.1] at h
    exact addKpi_show hresult h
  · rename_i hmany
    obtain ⟨spelling, hspelling, hlower⟩ := rule.exists_spelling hc
    rw [fields_many hmany] at h
    have hkept : spelling ∈ distinctIds (rule.kpiIds ++ clauses.map (·.kpiId)) := by
      unfold spelling? at hspelling
      rw [← find?_distinctIds] at hspelling
      exact List.mem_of_find?_eq_some hspelling
    rw [← hlower] at hresult
    exact ⟨spelling, hspelling,
      addKpis_show hnamed (.of_map lower (nodup_distinctIds _)) hkept hresult h⟩

end InsightRule

end Scorecard
