import Scorecard.Proofs.Insight.Firing
import Scorecard.Proofs.Insight.Writing

/-!
# Names that start with an id

A rule on several KPIs shows the fields of each under names that start with its id, in the first
spelling in which the rule names it. Whatever the ids are and in whatever order they come, no KPI
takes such a name from another, with one exception: the empty id starts no names, so the fields of
its KPI go by their plain names, and three of these are also names that start with an id.
-/

namespace Scorecard

open Text (lower)

/-! ## Names -/

namespace KpiField

/-- The names that start with an id and are the plain name of their field too. -/
def IsPlain (id : String) (f : KpiField) : Prop :=
  id = "value" ∧ (f = .rounded ∨ f = .formatted) ∨ id = "kpi" ∧ f = .name

theorem not_isPlain {id : String} (hvalue : id ≠ "value") (hkpi : id ≠ "kpi") (f : KpiField) :
    ¬ f.IsPlain id := by
  rintro (⟨hid, -⟩ | ⟨hid, -⟩)
  · exact hvalue hid
  · exact hkpi hid

theorem plainName_eq_nameFor_iff {id : String} {f g : KpiField} :
    plainName g = nameFor id f ↔ g = f ∧ IsPlain id f := by
  constructor
  · intro h
    have hending : f.ending <:+ (plainName g).toList := by
      rw [h, toList_nameFor]
      exact List.suffix_append _ _
    have hall : ∀ f ∈ all, ∀ g ∈ all, f.ending <:+ (plainName g).toList →
        g = f ∧ (f = .rounded ∨ f = .formatted ∨ f = .name) := by decide
    have hrounded : plainName .rounded = nameFor "value" .rounded := by decide
    have hformatted : plainName .formatted = nameFor "value" .formatted := by decide
    have hname : plainName .name = nameFor "kpi" .name := by decide
    obtain ⟨rfl, rfl | rfl | rfl⟩ := hall f (mem_all f) g (mem_all g) hending
    · exact ⟨rfl, .inl ⟨(nameFor_inj (h.symm.trans hrounded)).1, .inl rfl⟩⟩
    · exact ⟨rfl, .inl ⟨(nameFor_inj (h.symm.trans hformatted)).1, .inr rfl⟩⟩
    · exact ⟨rfl, .inr ⟨(nameFor_inj (h.symm.trans hname)).1, rfl⟩⟩
  · rintro ⟨rfl, ⟨rfl, rfl | rfl⟩ | ⟨rfl, rfl⟩⟩ <;> decide

/-- A name that starts with an id is set under this id, or it is a plain name and set under the
empty id. -/
theorem naming_eq_nameFor_iff {other id : String} {f g : KpiField} :
    naming other g = nameFor id f ↔
      g = f ∧ (other = id ∧ other ≠ "" ∨ other = "" ∧ IsPlain id f) := by
  by_cases hother : other = ""
  · subst hother
    rw [show naming "" g = plainName g from rfl, plainName_eq_nameFor_iff]
    simp
  · rw [naming_of_ne hother]
    constructor
    · intro h
      obtain ⟨hid, hfield⟩ := nameFor_inj h
      exact ⟨hfield, .inl ⟨hid, hother⟩⟩
    · rintro ⟨rfl, ⟨rfl, -⟩ | ⟨hempty, -⟩⟩
      · rfl
      · exact absurd hempty hother

end KpiField

open KpiField (nameFor naming)

/-! ## Kept ids -/

/-- The ids that are kept are those that are spelled as at their first occurrence. -/
theorem mem_distinctIds_iff {ids : List String} {id : String} :
    id ∈ distinctIds ids ↔ ids.find? (lower · = lower id) = some id := by
  rw [← find?_distinctIds]
  constructor
  · intro hmem
    have hfound : ((distinctIds ids).find? (lower · = lower id)).isSome = true :=
      List.find?_isSome.2 ⟨id, hmem, decide_eq_true rfl⟩
    obtain ⟨first, hfirst⟩ := Option.isSome_iff_exists.1 hfound
    have hlower : lower first = lower id := by simpa using List.find?_some hfirst
    rw [hfirst, List.inj_on_of_nodup_map (nodup_distinctIds ids)
      (List.mem_of_find?_eq_some hfirst) hmem hlower]
  · exact List.mem_of_find?_eq_some

/-! ## Fields under names that start with an id -/

/-- Whether a name stands for a field of a KPI. -/
def Fields.StandsFor (fields : Fields) (name : String) (ctx : Context) (lookup : RatingLookup)
    (kpiId : String) (f : KpiField) : Prop :=
  ∃ result d, lookup.result? (lower kpiId) = some result ∧
    f.content result (ctx.kpi kpiId) ctx.settings.style = .ok d ∧ fields.lookup name = some d

namespace InsightRule

theorem many_of_composite {rule : InsightRule} (h : rule.kind = .composite)
    (clauses : List Clause) : ¬ (rule.kind = .single ∧ clauses.length = 1) := by
  rintro ⟨hsingle, -⟩
  rw [h] at hsingle
  cases hsingle

/-- Whether a rule shows the fields of a rated KPI under names that start with this id. -/
def StartsNames (rule : InsightRule) (clauses : List Clause) (lookup : RatingLookup)
    (id : String) : Prop :=
  ¬ (rule.kind = .single ∧ clauses.length = 1) ∧ id ≠ "" ∧ id ∈ rule.shownIds clauses ∧
    (lookup.result? (lower id)).isSome = true

instance (rule : InsightRule) (clauses : List Clause) (lookup : RatingLookup) (id : String) :
    Decidable (rule.StartsNames clauses lookup id) :=
  inferInstanceAs (Decidable (_ ∧ _ ∧ _ ∧ _))

/-- Whether a rated KPI with the empty id is shown after another KPI. -/
def UnnamedAfter (rule : InsightRule) (clauses : List Clause) (lookup : RatingLookup)
    (id : String) : Prop :=
  (lookup.result? (lower "")).isSome = true ∧
    ∃ before after, rule.shownIds clauses = before ++ id :: after ∧ "" ∈ after

section Many

variable {ctx : Context} {lookup : RatingLookup} {fields fs : Fields}

theorem addKpis_standsFor {before after : List String} {id : String}
    (hresult : (lookup.result? (lower id)).isSome = true) {f : KpiField}
    (hafter : ∀ other ∈ after, ¬ lookup.Sets other (naming id f))
    (h : (before ++ id :: after).foldlM (fun fields id => addKpi ctx lookup id fields id) fields =
      .ok fs) : fs.StandsFor (naming id f) ctx lookup id f := by
  obtain ⟨result, hresult⟩ := Option.isSome_iff_exists.1 hresult
  obtain ⟨d, hd, hlookup⟩ := addKpis_last hresult hafter h
  exact ⟨result, d, hresult, hd, hlookup⟩

/-- A name that starts with an id stands for the field of its KPI, unless it is a plain name and the
empty id follows. -/
theorem addKpis_nameFor {before after : List String} {id : String}
    (hnodup : (before ++ id :: after).Nodup) (hid : id ≠ "")
    (hresult : (lookup.result? (lower id)).isSome = true) {f : KpiField}
    (hplain : f.IsPlain id → "" ∈ after → ¬ (lookup.result? (lower "")).isSome = true)
    (h : (before ++ id :: after).foldlM (fun fields id => addKpi ctx lookup id fields id) fields =
      .ok fs) : fs.StandsFor (nameFor id f) ctx lookup id f := by
  obtain ⟨hnew, -⟩ := List.nodup_cons.1 (List.nodup_append.1 hnodup).2.1
  rw [← KpiField.naming_of_ne hid]
  refine addKpis_standsFor hresult ?_ h
  rintro other hother ⟨hrated, g, hname⟩
  rw [KpiField.naming_of_ne hid, KpiField.naming_eq_nameFor_iff] at hname
  rcases hname.2 with ⟨rfl, -⟩ | ⟨rfl, hisPlain⟩
  · exact hnew hother
  · exact hplain hisPlain hother hrated

/-- A name that is a plain name too stands for the field of the KPI with the empty id, if that
follows. -/
theorem addKpis_plain {before after : List String} {id : String}
    (hnodup : (before ++ id :: after).Nodup) {f : KpiField} (hplain : f.IsPlain id)
    (hempty : "" ∈ after) (hresult : (lookup.result? (lower "")).isSome = true)
    (h : (before ++ id :: after).foldlM (fun fields id => addKpi ctx lookup id fields id) fields =
      .ok fs) : fs.StandsFor (nameFor id f) ctx lookup "" f := by
  obtain ⟨middle, rest, rfl⟩ := List.append_of_mem hempty
  have hname : naming "" f = nameFor id f := KpiField.plainName_eq_nameFor_iff.2 ⟨rfl, hplain⟩
  obtain ⟨hnew, hdistinct⟩ := List.nodup_cons.1 (List.nodup_append.1 hnodup).2.1
  obtain ⟨hempty, -⟩ := List.nodup_cons.1 (List.nodup_append.1 hdistinct).2.1
  rw [← List.cons_append, ← List.append_assoc] at h
  rw [← hname]
  refine addKpis_standsFor hresult ?_ h
  rintro other hother ⟨-, g, hother'⟩
  rw [hname, KpiField.naming_eq_nameFor_iff] at hother'
  rcases hother'.2 with ⟨rfl, -⟩ | ⟨rfl, -⟩
  · exact hnew (List.mem_append_right _ (List.mem_cons_of_mem _ hother))
  · exact hempty hother

end Many

section Rule

variable {rule : InsightRule} {ctx : Context} {lookup : RatingLookup} {clauses : List Clause}
  {fs : Fields}

theorem fields_nameFor (h : rule.fields clauses ctx lookup = .ok fs) {id : String}
    (hid : rule.StartsNames clauses lookup id) (f : KpiField) :
    (¬ (f.IsPlain id ∧ rule.UnnamedAfter clauses lookup id) →
      fs.StandsFor (nameFor id f) ctx lookup id f) ∧
    (f.IsPlain id ∧ rule.UnnamedAfter clauses lookup id →
      fs.StandsFor (nameFor id f) ctx lookup "" f) := by
  obtain ⟨hmany, hne, hshown, hresult⟩ := hid
  have hids := shownIds_many hmany
  have hnodup : (rule.shownIds clauses).Nodup := by
    rw [hids]
    exact .of_map lower (nodup_distinctIds _)
  rw [fields_many hmany, ← hids] at h
  constructor
  · intro hnone
    obtain ⟨before, after, hsplit⟩ := List.append_of_mem hshown
    rw [hsplit] at h hnodup
    refine addKpis_nameFor hnodup hne hresult (fun hplain hempty hrated => ?_) h
    exact hnone ⟨hplain, hrated, before, after, hsplit, hempty⟩
  · rintro ⟨hplain, hrated, before, after, hsplit, hempty⟩
    rw [hsplit] at h hnodup
    exact addKpis_plain hnodup hplain hempty hrated h

/-- A name that is no plain name and starts with no id of a rated KPI is left to the client. -/
theorem fields_unset (h : rule.fields clauses ctx lookup = .ok fs) {name : String}
    (hplain : ∀ f, KpiField.plainName f ≠ name)
    (hunset : ∀ id, rule.StartsNames clauses lookup id → ∀ f, nameFor id f ≠ name) :
    fs.lookup name = ctx.client.fields.lookup name := by
  by_cases hone : rule.kind = .single ∧ clauses.length = 1
  · obtain ⟨clause, rfl⟩ := List.length_eq_one_iff.1 hone.2
    rw [fields_single hone.1] at h
    refine addKpi_other ?_ h
    exact fun _ f => hplain f
  · rw [fields_many hone, ← shownIds_many hone] at h
    refine addKpis_unset ?_ h
    rintro id hid ⟨hrated, f, hname⟩
    by_cases hempty : id = ""
    · subst hempty
      exact hplain f hname
    · rw [KpiField.naming_of_ne hempty] at hname
      exact hunset id ⟨hone, hempty, hid, hrated⟩ f hname

/-- A rule on several KPIs can show its fields exactly if the figures of those that are rated can be
written. Then each name that starts with the id of one of them stands for the field of that KPI,
whatever the other ids are and in whatever order they come. Only a KPI with the empty id that comes
later takes the names from it that are its own plain names. -/
theorem fields_keep_joined_names {rule : InsightRule} (hkind : rule.kind = .composite)
    (clauses : List Clause) (ctx : Context) (lookup : RatingLookup) :
    ((∃ fs, rule.fields clauses ctx lookup = .ok fs) ↔
      ∀ id ∈ rule.shownIds clauses, (lookup.result? (lower id)).isSome = true → ctx.Writes id) ∧
    ∀ fs, rule.fields clauses ctx lookup = .ok fs →
      ∀ id ∈ rule.shownIds clauses, id ≠ "" → (lookup.result? (lower id)).isSome = true →
        ∀ f : KpiField,
          (¬ (f.IsPlain id ∧ rule.UnnamedAfter clauses lookup id) →
            fs.StandsFor (nameFor id f) ctx lookup id f) ∧
          (f.IsPlain id ∧ rule.UnnamedAfter clauses lookup id →
            fs.StandsFor (nameFor id f) ctx lookup "" f) := by
  refine ⟨exists_fields_iff, fun fs hfs id hshown hne hresult f => ?_⟩
  exact fields_nameFor hfs ⟨many_of_composite hkind clauses, hne, hshown, hresult⟩ f

end Rule

/-! ## Ids that contain each other -/

/-- A KPI that is rated as good. -/
def ratedGood (id : String) (value : Float) : BenchmarkResult where
  kpiId := id
  value := value
  rating := .good
  direction := .higher
  levels := ⟨1.0, 2.0, 3.0, 4.0⟩

/-- A rule on KPIs whose ids contain each other and parts of names, and on the empty id. -/
def nestedRule : InsightRule where
  id := "nested"
  kind := .composite
  kpiIds := ["a_benchmark", "value", "a", ""]
  trigger := "value:any"

/-- The ratings of these KPIs. -/
def nestedLookup : RatingLookup :=
  RatingRun.lookup ⟨[ratedGood "a" 5.0, ratedGood "a_benchmark" 6.0, ratedGood "value" 7.0,
    ratedGood "" 8.0], []⟩

theorem nestedRule_clauses : nestedRule.clauses = .ok [⟨"value", .any⟩] := by decide +kernel

/-- The names of `a` and of `a_benchmark` stay apart; the empty id takes a name of `value`. -/
theorem fields_keep_joined_names_nested :
    nestedRule.kind = .composite ∧
      ∃ fs, nestedRule.fields [⟨"value", .any⟩] {} nestedLookup = .ok fs ∧
        (∀ f, fs.StandsFor (nameFor "a" f) {} nestedLookup "a" f) ∧
        (∀ f, fs.StandsFor (nameFor "a_benchmark" f) {} nestedLookup "a_benchmark" f) ∧
        fs.StandsFor "value_rounded" {} nestedLookup "" .rounded := by
  obtain ⟨fs, hfs⟩ : ∃ fs, nestedRule.fields [⟨"value", .any⟩] {} nestedLookup = .ok fs :=
    exists_eq_ok (by decide +kernel)
  have hkind : nestedRule.kind = .composite := rfl
  have hnames := (fields_keep_joined_names hkind _ _ _).2 fs hfs
  refine ⟨hkind, fs, hfs, fun f => ?_, fun f => ?_, ?_⟩
  · refine (hnames "a" (by decide) (by decide) (by decide) f).1 ?_
    exact fun h => KpiField.not_isPlain (by decide) (by decide) f h.1
  · refine (hnames "a_benchmark" (by decide) (by decide) (by decide) f).1 ?_
    exact fun h => KpiField.not_isPlain (by decide) (by decide) f h.1
  · refine (hnames "value" (by decide) (by decide) (by decide) .rounded).2 ?_
    refine ⟨.inl ⟨rfl, .inl rfl⟩, by decide, ["a_benchmark"], ["a", ""], ?_, by decide⟩
    decide

/-- The KPI `value` loses the name of its rounded figure to the KPI with the empty id. -/
theorem not_fields_keep_all_names : ¬ ∀ (rule : InsightRule) (clauses : List Clause) (ctx : Context)
    (lookup : RatingLookup) (fs : Fields), rule.kind = .composite → rule.clauses = .ok clauses →
    rule.fields clauses ctx lookup = .ok fs → ∀ id ∈ rule.shownIds clauses, id ≠ "" →
      (lookup.result? (lower id)).isSome = true →
        ∀ f, fs.StandsFor (nameFor id f) ctx lookup id f := by
  intro h
  obtain ⟨fs, hfs⟩ : ∃ fs, nestedRule.fields [⟨"value", .any⟩] {} nestedLookup = .ok fs :=
    exists_eq_ok (by decide +kernel)
  obtain ⟨result, d, hresult, hd, hlookup⟩ := h nestedRule _ {} nestedLookup fs rfl
    nestedRule_clauses hfs "value" (by decide) (by decide) (by decide) .rounded
  have hown : (nestedLookup.result? (lower "value")).bind (fun result =>
      (KpiField.rounded.content result (Context.kpi {} "value")
        ({} : Context).settings.style).toOption.map Datum.toText) = some "7" := by decide +kernel
  have hshown : (nestedRule.fields [⟨"value", .any⟩] {} nestedLookup).toOption.bind
      (fun fs => (fs.lookup (nameFor "value" .rounded)).map Datum.toText) = some "8" := by
    decide +kernel
  rw [hresult, Option.bind_some, hd] at hown
  rw [hfs] at hshown
  change (fs.lookup (nameFor "value" .rounded)).map Datum.toText = some "8" at hshown
  rw [hlookup] at hshown
  have hsame : some "7" = some "8" := hown.symm.trans hshown
  revert hsame
  decide

end InsightRule

end Scorecard
