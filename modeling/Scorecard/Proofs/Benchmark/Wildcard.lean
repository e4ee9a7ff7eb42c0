import Scorecard.Proofs.Benchmark.Selection
import Scorecard.Proofs.Sequence
import Scorecard.Proofs.Text.Case

/-!
# Wildcards in other spellings

A filter that is blank or a word for everything lets every client pass, and it does so in each of
these spellings. Which benchmark is selected for a KPI, and with which scope, stays the same under
another spelling of such filters for exactly those clients whose industry and region are not words
for everything themselves. For a client whose industry is one, the filter with the same word names
the industry, and its benchmark outranks those that are for every industry.
-/

namespace Scorecard

open Text (fold isBlank)

namespace Benchmark

/-- Two filters that are the same text, or that both let every client pass. -/
def SameFilter (filter filter' : String) : Prop :=
  filter = filter' ∨ IsOpen filter ∧ IsOpen filter'

/-- Two benchmarks that differ in nothing but the spelling of filters that let every client pass. -/
structure Reopened (b b' : Benchmark) : Prop where
  /-- The benchmarks agree in all but their filters. -/
  rest : b' = { b with industryFilter := b'.industryFilter, regionFilter := b'.regionFilter }
  /-- The filters of industries are the same, or both let every client pass. -/
  industryFilter : SameFilter b.industryFilter b'.industryFilter
  /-- The filters of regions are the same, or both let every client pass. -/
  regionFilter : SameFilter b.regionFilter b'.regionFilter

/-- A client is described by a word for everything. -/
def SpelledOpen (subject : String) : Prop :=
  isBlank subject = false ∧ IsOpen subject

/-- Two benchmarks that are for the same KPI and the same to a client. -/
structure Alike (client : Client) (b b' : Benchmark) : Prop where
  /-- One competes for a KPI exactly if the other does. -/
  competes : ∀ id, b.Competes id client ↔ b'.Competes id client
  /-- Both are of one scope to the client. -/
  scopeOf : b.scopeOf client = b'.scopeOf client

theorem Alike.symm {client : Client} {b b' : Benchmark} (h : b.Alike client b') :
    b'.Alike client b :=
  ⟨fun id => (h.competes id).symm, h.scopeOf.symm⟩

theorem SameFilter.isOpen_iff {filter filter' : String} (h : SameFilter filter filter') :
    IsOpen filter ↔ IsOpen filter' := by
  rcases h with rfl | ⟨hopen, hopen'⟩
  · exact Iff.rfl
  · exact iff_of_true hopen hopen'

/-- A filter that lets every client pass names only those who are described by such a word. -/
theorem spelledOpen_of_names {filter subject : String} (hopen : IsOpen filter)
    (h : Names filter subject) : SpelledOpen subject := by
  obtain ⟨hblank, hfold⟩ := h
  unfold IsOpen at hopen
  rw [hfold] at hopen
  exact ⟨hblank, hopen⟩

theorem SameFilter.names_iff {filter filter' subject : String} (h : SameFilter filter filter')
    (hsubject : ¬ SpelledOpen subject) : Names filter subject ↔ Names filter' subject := by
  rcases h with rfl | ⟨hopen, hopen'⟩
  · exact Iff.rfl
  · exact iff_of_false (mt (spelledOpen_of_names hopen) hsubject)
      (mt (spelledOpen_of_names hopen') hsubject)

theorem Reopened.alike {b b' : Benchmark} (h : b.Reopened b') {client : Client}
    (hindustry : ¬ SpelledOpen client.industry) (hregion : ¬ SpelledOpen client.region) :
    b.Alike client b' := by
  have hkpi : b'.kpiId = b.kpiId := by rw [h.rest]
  have hnamesIndustry := h.industryFilter.names_iff hindustry
  have hnamesRegion := h.regionFilter.names_iff hregion
  constructor
  · intro id
    unfold Competes Candidate
    rw [hkpi, h.industryFilter.isOpen_iff, h.regionFilter.isOpen_iff, hnamesIndustry, hnamesRegion]
  · unfold scopeOf
    simp only [hnamesIndustry, hnamesRegion]

theorem not_names_empty (subject : String) : ¬ Names "" subject := by
  rintro ⟨hblank, hfold⟩
  have hempty : fold subject = "" := hfold.symm
  rw [fold, Text.lower_eq_empty_iff, ← Text.isBlank_iff, hblank] at hempty
  cases hempty

end Benchmark

namespace Selection

open Benchmark

variable {client : Client} {settings : Settings} {id : String} {i : Nat} {scope : Scope}

/-- The benchmark in place `i` is the one selected for a KPI: it is selected in the end, and not yet
by the benchmarks before it. -/
def SelectedAt (benchmarks : List Benchmark) (client : Client) (settings : Settings) (id : String)
    (i : Nat) (scope : Scope) : Prop :=
  ∃ before b after, benchmarks = before ++ b :: after ∧ before.length = i ∧
    (build benchmarks client settings).find? id =
      some ⟨b, scope, settings.divisor client.period⟩ ∧
    (build before client settings).find? id ≠ some ⟨b, scope, settings.divisor client.period⟩

/-- The selected benchmark stands at the first of the best candidates. -/
theorem selectedAt_iff {benchmarks : List Benchmark} :
    SelectedAt benchmarks client settings id i scope ↔
      ∃ before b after, benchmarks = before ++ b :: after ∧ before.length = i ∧
        b.Competes id client ∧ scope = b.scopeOf client ∧
        (∀ a ∈ before, a.Competes id client →
          (a.scopeOf client).rank < (b.scopeOf client).rank) ∧
        ∀ a ∈ after, a.Competes id client →
          (a.scopeOf client).rank ≤ (b.scopeOf client).rank := by
  constructor
  · rintro ⟨before, b, after, rfl, rfl, hfound, hnew⟩
    obtain ⟨before', b', after', hsplit, hcompetes, hselected, hless, hle⟩ :=
      (find?_build_eq_some_iff _ _ _).1 hfound
    obtain ⟨rfl, rfl, -⟩ := Selected.mk.inj hselected
    rcases List.append_eq_append_iff.1 hsplit with ⟨between, rfl, htail⟩ | ⟨between, rfl, htail⟩
    · -- The first of the best would stand after this place, where there is an equal one.
      cases between with
      | nil =>
        obtain ⟨-, rfl⟩ := List.cons.inj htail
        rw [List.append_nil] at hless
        exact ⟨before, b, after, rfl, rfl, hcompetes, rfl, hless, hle⟩
      | cons c between =>
        obtain ⟨rfl, -⟩ := List.cons.inj htail
        exact absurd (hless b (by simp) hcompetes) (lt_irrefl _)
    · -- It would stand before this place, and then be selected there already.
      cases between with
      | nil =>
        obtain ⟨-, rfl⟩ := List.cons.inj htail
        rw [List.append_nil]
        exact ⟨before', b, after', rfl, rfl, hcompetes, rfl, hless, hle⟩
      | cons c between =>
        obtain ⟨rfl, rfl⟩ := List.cons.inj htail
        refine absurd ((find?_build_eq_some_iff _ _ _).2
          ⟨before', b, between, rfl, hcompetes, rfl, hless, fun a ha => hle a ?_⟩) hnew
        exact List.mem_append_left _ ha
  · rintro ⟨before, b, after, rfl, rfl, hcompetes, rfl, hless, hle⟩
    refine ⟨before, b, after, rfl, rfl, (find?_build_eq_some_iff _ _ _).2
      ⟨before, b, after, rfl, hcompetes, rfl, hless, hle⟩, fun hbefore => ?_⟩
    obtain ⟨before', b', after', hsplit, -, hselected, -⟩ :=
      (find?_build_eq_some_iff _ _ _).1 hbefore
    obtain ⟨rfl, -⟩ := Selected.mk.inj hselected
    have hmem : b ∈ before := by simp [hsplit]
    exact lt_irrefl _ (hless b hmem hcompetes)

theorem SelectedAt.alike {benchmarks benchmarks' : List Benchmark}
    (h : List.Forall₂ (Alike client) benchmarks benchmarks')
    (hselected : SelectedAt benchmarks client settings id i scope) :
    SelectedAt benchmarks' client settings id i scope := by
  obtain ⟨before, b, after, rfl, rfl, hcompetes, rfl, hless, hle⟩ := selectedAt_iff.1 hselected
  obtain ⟨before', rest, rfl, hbefore, hrest⟩ := forall₂_append_left h
  obtain ⟨b', after', hb, hafter, rfl⟩ := List.forall₂_cons_left_iff.1 hrest
  refine selectedAt_iff.2 ⟨before', b', after', rfl, hbefore.length_eq.symm,
    (hb.competes id).1 hcompetes, hb.scopeOf, ?_, ?_⟩
  · refine forall_mem_of_forall₂ hbefore hless fun a a' ha hrank hcompetes' => ?_
    rw [← ha.scopeOf, ← hb.scopeOf]
    exact hrank ((ha.competes id).2 hcompetes')
  · refine forall_mem_of_forall₂ hafter hle fun a a' ha hrank hcompetes' => ?_
    rw [← ha.scopeOf, ← hb.scopeOf]
    exact hrank ((ha.competes id).2 hcompetes')

theorem selectedAt_congr {benchmarks benchmarks' : List Benchmark}
    (h : List.Forall₂ (Alike client) benchmarks benchmarks') :
    SelectedAt benchmarks client settings id i scope ↔
      SelectedAt benchmarks' client settings id i scope :=
  ⟨SelectedAt.alike h, SelectedAt.alike (h.imp fun _ _ hab => hab.symm).flip⟩

theorem selectedAt_singleton {b : Benchmark} (h : b.Competes id client) :
    SelectedAt [b] client settings id i scope ↔ i = 0 ∧ scope = b.scopeOf client := by
  rw [selectedAt_iff]
  constructor
  · rintro ⟨before, b', after, hsplit, rfl, -, rfl, -⟩
    cases before with
    | nil =>
      obtain ⟨rfl, -⟩ := List.cons.inj hsplit
      exact ⟨rfl, rfl⟩
    | cons a before =>
      obtain ⟨-, hnil⟩ := List.cons.inj hsplit
      exact absurd hnil.symm (List.append_ne_nil_of_right_ne_nil _ (List.cons_ne_nil _ _))
  · rintro ⟨rfl, rfl⟩
    exact ⟨[], b, [], rfl, rfl, h, rfl, by simp, by simp⟩

end Selection

/-! ## Clients described by a word for everything -/

namespace Benchmark

/-- A benchmark for one industry, or for one word for everything, in every region. -/
def inIndustry (industry : String) : Benchmark where
  kpiId := "revenue"
  industryFilter := industry
  regionFilter := ""

/-- A benchmark for one region, or for one word for everything, in every industry. -/
def inRegion (region : String) : Benchmark where
  kpiId := "revenue"
  industryFilter := ""
  regionFilter := region

variable {client : Client}

theorem isOpen_empty : IsOpen "" := by
  decide

theorem competes_inIndustry {industry : String} (h : IsOpen industry) :
    (inIndustry industry).Competes "revenue" client :=
  ⟨rfl, .inl h, .inl isOpen_empty⟩

theorem competes_inRegion {region : String} (h : IsOpen region) :
    (inRegion region).Competes "revenue" client :=
  ⟨rfl, .inl isOpen_empty, .inl h⟩

theorem scopeOf_inIndustry (industry : String) :
    (inIndustry industry).scopeOf client =
      if Names industry client.industry then .industry else .universal := by
  have hregion : ¬ Names (inIndustry industry).regionFilter client.region := not_names_empty _
  rw [scopeOf, if_neg hregion, if_neg hregion]
  rfl

theorem scopeOf_inRegion (region : String) :
    (inRegion region).scopeOf client =
      if Names region client.region then .region else .universal := by
  have hindustry : ¬ Names (inRegion region).industryFilter client.industry := not_names_empty _
  rw [scopeOf, if_neg hindustry]
  rfl

end Benchmark

namespace Selection

open Benchmark

/-- For a client who is described by a word for everything, the filter with this word and a blank
one give different scopes. -/
theorem not_interchangeable_of_spelledOpen {client : Client}
    (h : SpelledOpen client.industry ∨ SpelledOpen client.region) :
    ∃ b b' : Benchmark, b.Reopened b' ∧ ∀ settings, ∃ scope,
      SelectedAt [b] client settings "revenue" 0 scope ∧
      ¬ SelectedAt [b'] client settings "revenue" 0 scope := by
  rcases h with hindustry | hregion
  · refine ⟨inIndustry client.industry, inIndustry "",
      ⟨rfl, .inr ⟨hindustry.2, isOpen_empty⟩, .inl rfl⟩, fun settings => ⟨.industry, ?_, ?_⟩⟩
    · have hnames : Names client.industry client.industry := ⟨hindustry.1, rfl⟩
      rw [selectedAt_singleton (competes_inIndustry hindustry.2), scopeOf_inIndustry,
        if_pos hnames]
      exact ⟨rfl, rfl⟩
    · rw [selectedAt_singleton (competes_inIndustry isOpen_empty), scopeOf_inIndustry,
        if_neg (not_names_empty _)]
      simp
  · refine ⟨inRegion client.region, inRegion "",
      ⟨rfl, .inl rfl, .inr ⟨hregion.2, isOpen_empty⟩⟩, fun settings => ⟨.region, ?_, ?_⟩⟩
    · have hnames : Names client.region client.region := ⟨hregion.1, rfl⟩
      rw [selectedAt_singleton (competes_inRegion hregion.2), scopeOf_inRegion, if_pos hnames]
      exact ⟨rfl, rfl⟩
    · rw [selectedAt_singleton (competes_inRegion isOpen_empty), scopeOf_inRegion,
        if_neg (not_names_empty _)]
      simp

/-- The spellings of a filter that lets every client pass are interchangeable, whatever the
benchmarks, for exactly those clients whose industry and region are no words for everything: under
other spellings the benchmark in the same place is selected, with the same scope. -/
theorem open_filters_interchangeable_iff (client : Client) :
    (∀ (benchmarks benchmarks' : List Benchmark) (settings : Settings) (id : String),
        List.Forall₂ Benchmark.Reopened benchmarks benchmarks' →
        ∀ i scope, SelectedAt benchmarks client settings id i scope ↔
          SelectedAt benchmarks' client settings id i scope) ↔
      ¬ SpelledOpen client.industry ∧ ¬ SpelledOpen client.region := by
  constructor
  · intro h
    rw [← not_or]
    intro hopen
    obtain ⟨b, b', hb, hdiffer⟩ := not_interchangeable_of_spelledOpen hopen
    obtain ⟨scope, hselected, hnot⟩ := hdiffer {}
    exact hnot ((h [b] [b'] {} "revenue" (.cons hb .nil) 0 scope).1 hselected)
  · rintro ⟨hindustry, hregion⟩ benchmarks benchmarks' settings id h i scope
    exact selectedAt_congr (h.imp fun _ _ hb => hb.alike hindustry hregion)

/-- A client whose industry is a word for everything. -/
def allIndustries : Client where
  industry := "all"
  region := "Texas"

/-- With the client's own word in its filter, the benchmark for everything is selected before the
one for the region; with another word it is not. -/
theorem open_filter_outranks_region :
    ¬ ∀ (client : Client) (benchmarks benchmarks' : List Benchmark) (settings : Settings)
        (id : String), List.Forall₂ Benchmark.Reopened benchmarks benchmarks' →
        ∀ i scope, SelectedAt benchmarks client settings id i scope ↔
          SelectedAt benchmarks' client settings id i scope := by
  intro h
  have hreopened : List.Forall₂ Benchmark.Reopened [inRegion "Texas", inIndustry "all"]
      [inRegion "Texas", inIndustry "*"] :=
    .cons ⟨rfl, .inl rfl, .inl rfl⟩
      (.cons ⟨rfl, .inr ⟨by decide, by decide⟩, .inl rfl⟩ .nil)
  have hselected : SelectedAt [inRegion "Texas", inIndustry "all"] allIndustries {} "revenue" 1
      .industry :=
    selectedAt_iff.2 ⟨[inRegion "Texas"], inIndustry "all", [], rfl, rfl, by decide⟩
  obtain ⟨before, b, after, hsplit, hlength, -, hscope, -⟩ :=
    selectedAt_iff.1 ((h allIndustries _ _ {} "revenue" hreopened 1 .industry).1 hselected)
  have hb : [inRegion "Texas", inIndustry "*"][1]? = some b := by
    rw [hsplit, ← hlength, List.getElem?_append_right (Nat.le_refl _), Nat.sub_self]
    rfl
  obtain rfl := Option.some.inj hb
  revert hscope
  decide

end Selection

end Scorecard
