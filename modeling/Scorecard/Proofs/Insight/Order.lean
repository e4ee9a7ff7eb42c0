import Scorecard.Insight.Order
import Mathlib.Data.List.Forall2

/-!
# The order of findings

Where a finding stands in a report depends on its section, its status and its priority, and not on
its text.
-/

namespace Scorecard

/-- Two findings that agree in all that decides where they stand. -/
structure Finding.SamePlace (a b : Finding) : Prop where
  /-- Both have one status. -/
  status : a.status = b.status
  /-- Both are of one section. -/
  sectionId : a.sectionId = b.sectionId
  /-- Both have one priority. -/
  priority : a.priority = b.priority

theorem Finding.SamePlace.le {order : StatusOrder} {a a' b b' : Finding} (ha : a.SamePlace a')
    (hb : b.SamePlace b') : Finding.le order a b = Finding.le order a' b' := by
  rw [Finding.le, Finding.le, ha.status, ha.priority, hb.status, hb.priority]

namespace Sections

/-- Two reports whose findings stand in the same sections in the same order, each related to its
counterpart. -/
def Alike (R : Finding → Finding → Prop) : Sections → Sections → Prop :=
  List.Forall₂ fun s t => s.1 = t.1 ∧ List.Forall₂ R s.2 t.2

variable {R : Finding → Finding → Prop} {findings findings' : List Finding}

theorem sorted_forall₂ (hplace : ∀ a b, R a b → a.SamePlace b) (order : StatusOrder)
    {pairs : List (Finding × Finding)} (h : ∀ p ∈ pairs, R p.1 p.2) (sectionId : String) :
    List.Forall₂ R
      (((pairs.map Prod.fst).filter (·.sectionId = sectionId)).mergeSort (Finding.le order))
      (((pairs.map Prod.snd).filter (·.sectionId = sectionId)).mergeSort (Finding.le order)) := by
  set here := pairs.filter fun p => p.1.sectionId = sectionId with hhere
  have hR : ∀ p ∈ here, R p.1 p.2 := fun p hp => h p (List.mem_filter.1 hp).1
  have hsecond : pairs.filter (fun p => p.2.sectionId = sectionId) = here := by
    refine List.filter_congr fun p hp => ?_
    rw [(hplace _ _ (h p hp)).sectionId]
  -- Both lists are sorted as the pairs are, by the place that the two of a pair have in common.
  set le := fun p q : Finding × Finding => Finding.le order p.1 q.1
  have hfst : (here.mergeSort le).map Prod.fst =
      (here.map Prod.fst).mergeSort (Finding.le order) := by
    refine List.map_mergeSort fun p _ q _ => ?_
    rfl
  have hsnd : (here.mergeSort le).map Prod.snd =
      (here.map Prod.snd).mergeSort (Finding.le order) := by
    refine List.map_mergeSort fun p hp q hq => ?_
    exact (hplace _ _ (hR p hp)).le (hplace _ _ (hR q hq))
  rw [List.filter_map, List.filter_map]
  change List.Forall₂ R ((here.map Prod.fst).mergeSort _)
    (((pairs.filter fun p => p.2.sectionId = sectionId).map Prod.snd).mergeSort _)
  rw [hsecond, ← hfst, ← hsnd, List.forall₂_map_left_iff, List.forall₂_map_right_iff,
    List.forall₂_same]
  exact fun p hp => hR p (List.mem_mergeSort.1 hp)

/-- Related findings that agree in all that decides where they stand are put into the same sections
in the same order. -/
theorem ofFindings_alike (hplace : ∀ a b, R a b → a.SamePlace b) (order : StatusOrder)
    (h : List.Forall₂ R findings findings') :
    Alike R (ofFindings order findings) (ofFindings order findings') := by
  obtain ⟨pairs, rfl, rfl, hpairs⟩ : ∃ pairs : List (Finding × Finding),
      findings = pairs.map Prod.fst ∧ findings' = pairs.map Prod.snd ∧
        ∀ p ∈ pairs, R p.1 p.2 := by
    have hlength := h.length_eq
    exact ⟨findings.zip findings', (List.map_fst_zip (Nat.le_of_eq hlength)).symm,
      (List.map_snd_zip (Nat.le_of_eq hlength.symm)).symm, fun p hp => List.forall₂_zip h hp⟩
  have hids : (pairs.map Prod.fst).map (·.sectionId) = (pairs.map Prod.snd).map (·.sectionId) := by
    rw [List.map_map, List.map_map]
    exact List.map_congr_left fun p hp => (hplace _ _ (hpairs p hp)).sectionId
  unfold Alike ofFindings
  rw [hids, List.forall₂_map_left_iff, List.forall₂_map_right_iff, List.forall₂_same]
  exact fun sectionId _ => ⟨rfl, sorted_forall₂ hplace order hpairs sectionId⟩

end Sections

end Scorecard
