import Scorecard.Insight.Run
import Scorecard.Proofs.FirstSeen
import Scorecard.Proofs.Sequence
import Mathlib.Data.List.Perm.Basic
import Mathlib.Data.Prod.Lex

/-!
# Findings in their sections

Putting findings into sections loses none, doubles none and moves none to a section of another
name. Sections stand in the order in which their first findings come. In a section findings are
sorted by the rank of their status and then by priority, and those that agree in both stay in the
order in which they came. What is in order already stays as it is.
-/

namespace Scorecard

/-! ## The place of a finding -/

/-- What decides where a finding stands in its section: the rank of its status, then its
priority. -/
def Finding.place (order : StatusOrder) (f : Finding) : Int ×ₗ Int :=
  toLex (order.rank f.status, f.priority)

namespace Finding

variable {order : StatusOrder} {a b : Finding}

theorem le_iff : le order a b = true ↔ a.place order ≤ b.place order := by
  unfold le place
  rw [Prod.Lex.toLex_le_toLex]
  simp

theorem transitive_le (a b c : Finding) (hab : le order a b = true) (hbc : le order b c = true) :
    le order a c = true := by
  rw [le_iff] at *
  exact hab.trans hbc

theorem total_le (a b : Finding) : (le order a b || le order b a) = true := by
  rw [Bool.or_eq_true, le_iff, le_iff]
  exact le_total _ _

end Finding

/-! ## Sorting -/

/-- Items that the order does not tell apart stay as they are when a list is sorted. -/
theorem filter_mergeSort_of_tie {α : Type} {le : α → α → Bool} {p : α → Bool}
    (htrans : ∀ a b c, le a b = true → le b c = true → le a c = true)
    (htotal : ∀ a b, (le a b || le b a) = true)
    (htie : ∀ a b, p a = true → p b = true → le a b = true) (l : List α) :
    (l.mergeSort le).filter p = l.filter p := by
  -- Those items are sorted as they are, so a stable sort keeps them as a sublist.
  have hpairwise : (l.filter p).Pairwise fun a b => le a b = true := by
    refine List.pairwise_of_forall_mem_list fun a ha b hb => ?_
    exact htie a b (List.mem_filter.1 ha).2 (List.mem_filter.1 hb).2
  have hsublist : (l.filter p).Sublist (l.mergeSort le) :=
    List.sublist_mergeSort htrans htotal hpairwise List.filter_sublist
  have hkept := hsublist.filter p
  rw [List.filter_filter] at hkept
  simp only [Bool.and_self] at hkept
  exact (hkept.eq_of_length ((List.mergeSort_perm l le).filter p).length_eq.symm).symm

/-! ## Sections -/

/-- Sections that hold findings and nothing else, each in its own section and in order. -/
structure Sections.Arranges (sections : Sections) (order : StatusOrder)
    (findings : List Finding) : Prop where
  /-- The sections together hold each finding as often as it is given. -/
  perm : sections.findings.Perm findings
  /-- A finding is in the section that it names. -/
  home : ∀ s ∈ sections, ∀ f ∈ s.2, f.sectionId = s.1
  /-- Sections come in the order in which findings first name them. -/
  firstSeen : (sections.map Prod.fst).Pairwise fun a b =>
    (findings.map (·.sectionId)).idxOf a < (findings.map (·.sectionId)).idxOf b
  /-- No section is empty. -/
  nonempty : ∀ s ∈ sections, s.2 ≠ []
  /-- A section is sorted. -/
  sorted : ∀ s ∈ sections, s.2.Pairwise fun a b => a.place order ≤ b.place order
  /-- Findings of a section that have the same place are in the order in which they are given. -/
  stable : ∀ s ∈ sections, ∀ place, s.2.filter (·.place order = place) =
    findings.filter fun f => f.sectionId = s.1 ∧ f.place order = place

/-- Items picked by one key after the other are all items, if the keys are different and all there
are. -/
theorem flatMap_filter_perm {α κ : Type} [DecidableEq κ] {key : α → κ} {keys : List κ}
    {l : List α} (hnodup : keys.Nodup) (hkeys : ∀ a ∈ l, key a ∈ keys) :
    (keys.flatMap fun k => l.filter (key · = k)).Perm l := by
  induction keys generalizing l with
  | nil =>
    have hl : l = [] := List.eq_nil_iff_forall_not_mem.2 fun a ha => by simpa using hkeys a ha
    rw [hl]
    exact .nil
  | cons k keys ih =>
    obtain ⟨hk, hnodup⟩ := List.nodup_cons.1 hnodup
    -- What the other keys pick is what they pick from the items without the first key.
    have hrest : (keys.flatMap fun j => l.filter (key · = j)) =
        keys.flatMap fun j => (l.filter (¬ key · = k)).filter (key · = j) := by
      refine List.flatMap_congr fun j hj => ?_
      have hjk : j ≠ k := fun h => hk (h ▸ hj)
      rw [List.filter_filter]
      refine List.filter_congr fun a _ => ?_
      by_cases ha : key a = j
      · simp [ha, hjk]
      · simp [ha]
    have hothers : ∀ a ∈ l.filter (¬ key · = k), key a ∈ keys := by
      intro a ha
      obtain ⟨hmem, hne⟩ := List.mem_filter.1 ha
      exact (List.mem_cons.1 (hkeys a hmem)).resolve_left (by simpa using hne)
    rw [List.flatMap_cons, hrest]
    have hperm := (ih hnodup hothers).append_left (l.filter (key · = k))
    refine hperm.trans ?_
    simpa using List.filter_append_perm (fun a => decide (key a = k)) l

namespace Sections

variable {order : StatusOrder} {findings : List Finding}

theorem mem_ofFindings {s : String × List Finding} :
    s ∈ ofFindings order findings ↔ s.1 ∈ findings.map (·.sectionId) ∧
      s.2 = (findings.filter (·.sectionId = s.1)).mergeSort (Finding.le order) := by
  unfold ofFindings
  rw [List.mem_map]
  constructor
  · rintro ⟨id, hid, rfl⟩
    exact ⟨List.mem_eraseDups.1 hid, rfl⟩
  · rintro ⟨hid, hs⟩
    exact ⟨s.1, List.mem_eraseDups.2 hid, Prod.ext rfl hs.symm⟩

theorem ids_ofFindings (order : StatusOrder) (findings : List Finding) :
    (ofFindings order findings).map Prod.fst = (findings.map (·.sectionId)).eraseDups := by
  rw [ofFindings, List.map_map]
  exact List.map_id _

theorem findings_ofFindings_perm (order : StatusOrder) (findings : List Finding) :
    (ofFindings order findings).findings.Perm findings := by
  unfold Sections.findings ofFindings
  rw [List.flatMap_map]
  have hsorted : ((findings.map (·.sectionId)).eraseDups.flatMap fun id =>
      (findings.filter (·.sectionId = id)).mergeSort (Finding.le order)).Perm
      ((findings.map (·.sectionId)).eraseDups.flatMap fun id =>
        findings.filter (·.sectionId = id)) :=
    List.Perm.flatMap_left _ fun id _ => List.mergeSort_perm _ _
  refine hsorted.trans (flatMap_filter_perm (nodup_eraseDups _) fun f hf => ?_)
  exact List.mem_eraseDups.2 (List.mem_map_of_mem hf)

theorem arranges_ofFindings (order : StatusOrder) (findings : List Finding) :
    (ofFindings order findings).Arranges order findings where
  perm := findings_ofFindings_perm order findings
  home := by
    intro s hs f hf
    rw [(mem_ofFindings.1 hs).2, List.mem_mergeSort] at hf
    simpa using (List.mem_filter.1 hf).2
  firstSeen := by
    rw [ids_ofFindings]
    exact pairwise_idxOf_eraseDups _
  nonempty := by
    intro s hs hempty
    obtain ⟨hid, hfindings⟩ := mem_ofFindings.1 hs
    obtain ⟨f, hf, hsection⟩ := List.mem_map.1 hid
    have hmem : f ∈ s.2 := by
      rw [hfindings, List.mem_mergeSort]
      exact List.mem_filter.2 ⟨hf, by simpa using hsection⟩
    rw [hempty] at hmem
    cases hmem
  sorted := by
    intro s hs
    rw [(mem_ofFindings.1 hs).2]
    refine (List.pairwise_mergeSort Finding.transitive_le Finding.total_le _).imp fun h => ?_
    exact Finding.le_iff.1 h
  stable := by
    intro s hs place
    have htie (a b : Finding) (ha : decide (a.place order = place) = true)
        (hb : decide (b.place order = place) = true) : Finding.le order a b = true := by
      rw [Finding.le_iff, of_decide_eq_true ha, of_decide_eq_true hb]
    rw [(mem_ofFindings.1 hs).2,
      filter_mergeSort_of_tie Finding.transitive_le Finding.total_le htie, List.filter_filter]
    refine List.filter_congr fun f _ => ?_
    rw [Bool.decide_and, Bool.and_comm]

/-! ## Ordering again -/

theorem findings_cons (s : String × List Finding) (sections : Sections) :
    Sections.findings (s :: sections) = s.2 ++ sections.findings :=
  List.flatMap_cons

theorem sectionId_mem {sections : Sections} (hhome : ∀ s ∈ sections, ∀ f ∈ s.2, f.sectionId = s.1)
    {f : Finding} (hf : f ∈ sections.findings) : f.sectionId ∈ sections.map Prod.fst := by
  obtain ⟨s, hs, hfs⟩ := List.mem_flatMap.1 hf
  rw [hhome s hs f hfs]
  exact List.mem_map_of_mem hs

theorem ids_findings {sections : Sections} (hhome : ∀ s ∈ sections, ∀ f ∈ s.2, f.sectionId = s.1)
    (hnonempty : ∀ s ∈ sections, s.2 ≠ []) (hnodup : (sections.map Prod.fst).Nodup) :
    (sections.findings.map (·.sectionId)).eraseDups = sections.map Prod.fst := by
  induction sections with
  | nil => rfl
  | cons s sections ih =>
    obtain ⟨hs, hhome⟩ := List.forall_mem_cons.1 hhome
    obtain ⟨hne, hnonempty⟩ := List.forall_mem_cons.1 hnonempty
    obtain ⟨hnew, hnodup⟩ := List.nodup_cons.1 hnodup
    -- The first section names its own id alone, and no later section names it again.
    have hids : ∀ id ∈ s.2.map (·.sectionId), id = s.1 := by
      intro id hid
      obtain ⟨f, hf, rfl⟩ := List.mem_map.1 hid
      exact hs f hf
    have hothers : ((Sections.findings sections).map (·.sectionId)).removeAll
        (s.2.map (·.sectionId)) = (Sections.findings sections).map (·.sectionId) := by
      refine List.filter_eq_self.2 fun id hid => ?_
      obtain ⟨f, hf, rfl⟩ := List.mem_map.1 hid
      have hnot : f.sectionId ∉ s.2.map (·.sectionId) := fun hmem =>
        hnew (hids _ hmem ▸ sectionId_mem hhome hf)
      simpa using hnot
    rw [findings_cons, List.map_append, List.eraseDups_append, hothers, ih hhome hnonempty hnodup,
      eraseDups_eq_singleton (by simpa using hne) hids]
    rfl

theorem filter_findings {sections : Sections}
    (hhome : ∀ s ∈ sections, ∀ f ∈ s.2, f.sectionId = s.1)
    (hnodup : (sections.map Prod.fst).Nodup) :
    ∀ s ∈ sections, sections.findings.filter (·.sectionId = s.1) = s.2 := by
  induction sections with
  | nil => exact fun _ hs => absurd hs List.not_mem_nil
  | cons t sections ih =>
    obtain ⟨ht, hrest⟩ := List.forall_mem_cons.1 hhome
    obtain ⟨hnew, hdistinct⟩ := List.nodup_cons.1 hnodup
    intro s hs
    rw [findings_cons, List.filter_append]
    rcases List.mem_cons.1 hs with rfl | hs
    · have hhere : s.2.filter (·.sectionId = s.1) = s.2 :=
        List.filter_eq_self.2 fun f hf => by simpa using ht f hf
      have hlater : (Sections.findings sections).filter (·.sectionId = s.1) = [] := by
        refine List.filter_eq_nil_iff.2 fun f hf => ?_
        have hid : f.sectionId ≠ s.1 := fun h => hnew (h ▸ sectionId_mem hrest hf)
        simpa using hid
      rw [hhere, hlater, List.append_nil]
    · have hearlier : t.2.filter (·.sectionId = s.1) = [] := by
        refine List.filter_eq_nil_iff.2 fun f hf => ?_
        have hid : f.sectionId ≠ s.1 := fun h =>
          hnew ((ht f hf).symm.trans h ▸ List.mem_map_of_mem hs)
        simpa using hid
      rw [hearlier, List.nil_append, ih hrest hdistinct s hs]

/-- The findings of sections that are in order are put into the same sections again. -/
theorem Arranges.ofFindings_findings {sections : Sections} (h : sections.Arranges order findings) :
    ofFindings order sections.findings = sections := by
  have hnodup : (sections.map Prod.fst).Nodup := nodup_of_pairwise_idxOf h.firstSeen
  have hsection (s : String × List Finding) (hs : s ∈ sections) :
      (s.1, (sections.findings.filter (·.sectionId = s.1)).mergeSort (Finding.le order)) = s := by
    have hsorted : s.2.Pairwise fun a b => Finding.le order a b = true :=
      (h.sorted s hs).imp Finding.le_iff.2
    rw [filter_findings h.home hnodup s hs, List.mergeSort_of_pairwise hsorted]
  unfold ofFindings
  rw [ids_findings h.home h.nonempty hnodup, List.map_map]
  exact (List.map_congr_left hsection).trans (List.map_id _)

/-- Findings are put into sections so that each is in the section that it names and nowhere else;
sections come in the order of their first findings and are sorted, findings of the same rank and
priority staying in their order. What insight rules find is shown section by section, and put into
sections once more it is in the same sections in the same order. -/
theorem ofFindings_partitions (order : StatusOrder) (findings : List Finding) :
    (ofFindings order findings).Arranges order findings ∧
    ∀ (rules : List InsightRule) (ctx : Context) (lookup : RatingLookup)
      (chosen : Option StatusOrder) (run : InsightRun),
      findInsights rules ctx lookup chosen = .ok run →
        run.findings = run.sections.flatMap Prod.snd ∧
          ofFindings (chosen.getD ctx.settings.statusOrder) run.findings = run.sections := by
  refine ⟨arranges_ofFindings order findings, ?_⟩
  intro rules ctx lookup chosen run hrun
  obtain ⟨firings, -, hrun⟩ := bind_eq_ok_iff.1 hrun
  obtain rfl := Except.ok.inj hrun
  exact ⟨rfl, (arranges_ofFindings _ _).ofFindings_findings⟩

end Sections

end Scorecard
