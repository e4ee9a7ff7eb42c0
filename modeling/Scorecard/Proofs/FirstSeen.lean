import Mathlib.Data.List.Induction
import Mathlib.Data.List.Nodup

/-!
# Lists without repetitions

A list without the repetitions of its items has each of them once, in the order in which they are
first seen.
-/

namespace Scorecard

theorem nodup_of_pairwise_idxOf {α : Type} [BEq α] {l m : List α}
    (h : l.Pairwise fun a b => m.idxOf a < m.idxOf b) : l.Nodup := by
  refine h.imp fun {a b} hlt heq => ?_
  rw [heq] at hlt
  exact Nat.lt_irrefl _ hlt

section FirstSeen

variable {α : Type} [BEq α] [LawfulBEq α]

theorem eraseDups_concat (l : List α) (a : α) :
    (l ++ [a]).eraseDups = if l.contains a then l.eraseDups else l.eraseDups ++ [a] := by
  rw [List.eraseDups_append, List.removeAll]
  by_cases h : a ∈ l
  · simp [h]
  · simp [h, List.eraseDups_cons]

/-- The items of a list without repetitions come in the order in which they are first seen. -/
theorem pairwise_idxOf_eraseDups (l : List α) :
    l.eraseDups.Pairwise fun a b => l.idxOf a < l.idxOf b := by
  induction l using List.reverseRecOn with
  | nil => exact .nil
  | append_singleton l c ih =>
    have hold : l.eraseDups.Pairwise fun a b => (l ++ [c]).idxOf a < (l ++ [c]).idxOf b := by
      refine ih.imp_of_mem fun {a b} ha hb hab => ?_
      rw [List.mem_eraseDups] at ha hb
      rwa [List.idxOf_append_of_mem ha, List.idxOf_append_of_mem hb]
    rw [eraseDups_concat]
    split
    · exact hold
    · rename_i hc
      refine List.pairwise_append.2 ⟨hold, List.pairwise_singleton _ _, fun a ha b hb => ?_⟩
      obtain rfl := List.mem_singleton.1 hb
      have hb : b ∉ l := by simpa using hc
      rw [List.mem_eraseDups] at ha
      have hlt := List.idxOf_lt_length_of_mem ha
      rw [List.idxOf_append_of_mem ha, List.idxOf_append_of_notMem hb]
      omega

theorem nodup_eraseDups (l : List α) : l.eraseDups.Nodup :=
  nodup_of_pairwise_idxOf (pairwise_idxOf_eraseDups l)

theorem eraseDups_eq_singleton {l : List α} {a : α} (hne : l ≠ []) (h : ∀ b ∈ l, b = a) :
    l.eraseDups = [a] := by
  cases l with
  | nil => exact absurd rfl hne
  | cons b l =>
    obtain ⟨rfl, hl⟩ := List.forall_mem_cons.1 h
    have hnone : l.filter (fun c => !c == b) = [] :=
      List.filter_eq_nil_iff.2 fun c hc => by simp [hl c hc]
    rw [List.eraseDups_cons, hnone, List.eraseDups_nil]

omit [LawfulBEq α] in
theorem head?_eraseDups (l : List α) : l.eraseDups.head? = l.head? := by
  cases l with
  | nil => rfl
  | cons a l => rw [List.eraseDups_cons, List.head?_cons, List.head?_cons]

end FirstSeen

end Scorecard
