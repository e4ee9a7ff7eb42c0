import Scorecard.Proofs.Insight.Sections
import Scorecard.Schema.Settings

/-!
# Findings of a status without a rank

An order may leave statuses out. A status that is left out has the number of ranked ones for its
rank. This is behind every rank if ranks are counted from zero, as they are unless something else is
set, but the settings take any numbers. In a section the findings of such a status stand before
those of a status with a higher rank than this number, and among those of this rank by priority. So
they come last in every section exactly if all ranks are below the number of ranked statuses, or no
status is left out.
-/

namespace Scorecard

namespace StatusOrder

variable {order : StatusOrder} {status : Status}

/-- Whether an order ranks a status. -/
def Ranks (order : StatusOrder) (status : Status) : Prop :=
  (order.lookup status).isSome = true

instance : Decidable (order.Ranks status) :=
  inferInstanceAs (Decidable (_ = true))

theorem rank_of_not_ranks (h : ¬ order.Ranks status) : order.rank status = order.length := by
  unfold Ranks at h
  rw [Bool.not_eq_true, Option.isSome_eq_false_iff, Option.isNone_iff_eq_none] at h
  rw [rank, h, Option.getD_none]

end StatusOrder

namespace Sections

variable {order : StatusOrder} {findings : List Finding}

/-- A finding of a status without a rank stands before one with a rank only if the rank is not below
the number of ranked statuses, and at this number only if the priority allows it. -/
theorem unranked_before_ranked {s : String × List Finding} (hs : s ∈ ofFindings order findings) :
    s.2.Pairwise fun a b => ¬ order.Ranks a.status → order.Ranks b.status →
      order.length < order.rank b.status ∨
        order.rank b.status = order.length ∧ a.priority ≤ b.priority := by
  refine ((arranges_ofFindings order findings).sorted s hs).imp fun {a b} hplace ha _ => ?_
  unfold Finding.place at hplace
  rw [Prod.Lex.toLex_le_toLex, StatusOrder.rank_of_not_ranks ha] at hplace
  rcases hplace with hrank | ⟨hrank, hpriority⟩
  · exact .inl hrank
  · exact .inr ⟨hrank.symm, hpriority⟩

/-- Findings of one section that are in order stay as they are. -/
theorem mem_ofFindings_of_sorted {sectionId : String} (hne : findings ≠ [])
    (hhome : ∀ f ∈ findings, f.sectionId = sectionId)
    (hsorted : findings.Pairwise fun a b => a.place order ≤ b.place order) :
    (sectionId, findings) ∈ ofFindings order findings := by
  refine mem_ofFindings.2 ⟨?_, ?_⟩
  · obtain ⟨f, hf⟩ := List.exists_mem_of_ne_nil findings hne
    exact List.mem_map.2 ⟨f, hf, hhome f hf⟩
  · have hall : findings.filter (·.sectionId = sectionId) = findings :=
      List.filter_eq_self.2 fun f hf => by simpa using hhome f hf
    rw [hall, List.mergeSort_of_pairwise (hsorted.imp Finding.le_iff.2)]

/-- A finding that is known by its status alone. -/
def ofStatus (status : Status) : Finding where
  id := status.name
  title := status.name
  status := status

/-- In every section of all findings those of a status without a rank come last. -/
def UnrankedLast (order : StatusOrder) : Prop :=
  ∀ findings, ∀ s ∈ ofFindings order findings,
    s.2.Pairwise fun a b => order.Ranks b.status → order.Ranks a.status

/-- A status that is left out would come before one with too high a rank, where a section holds a
finding of each. -/
theorem UnrankedLast.below_or_complete (h : UnrankedLast order) :
    (∀ status, order.Ranks status → order.rank status < order.length) ∨
      ∀ status, order.Ranks status := by
  by_contra hnot
  push Not at hnot
  obtain ⟨⟨ranked, hranked, hrank⟩, unranked, hunranked⟩ := hnot
  have hsorted : [ofStatus unranked, ofStatus ranked].Pairwise fun a b =>
      a.place order ≤ b.place order := by
    refine List.pairwise_pair.2 ?_
    unfold Finding.place
    rw [Prod.Lex.toLex_le_toLex, show (ofStatus unranked).status = unranked from rfl,
      StatusOrder.rank_of_not_ranks hunranked]
    rcases lt_or_eq_of_le hrank with hlt | heq
    · exact .inl hlt
    · exact .inr ⟨heq, le_rfl⟩
  have hmem : ("", [ofStatus unranked, ofStatus ranked]) ∈
      ofFindings order [ofStatus unranked, ofStatus ranked] :=
    mem_ofFindings_of_sorted (List.cons_ne_nil _ _) (by simp [ofStatus]) hsorted
  exact hunranked (List.pairwise_pair.1 (h _ _ hmem) hranked)

theorem unrankedLast_of_below
    (h : ∀ status, order.Ranks status → order.rank status < order.length) :
    UnrankedLast order := by
  intro findings s hs
  refine (unranked_before_ranked hs).imp fun {a b} hbefore hb => ?_
  by_contra ha
  have hlt := h b.status hb
  rcases hbefore ha hb with hgt | ⟨heq, -⟩ <;> omega

theorem unrankedLast_of_complete (h : ∀ status, order.Ranks status) : UnrankedLast order :=
  fun _ _ _ => List.pairwise_of_forall fun a _ _ => h a.status

/-- In every section of all findings those of a status without a rank come last, exactly if all
ranks are below the number of ranked statuses or no status is left out. Whatever the ranks are, such
a finding stands before one with a rank only if the rank is above this number, or is this number and
the priority allows it. -/
theorem ofFindings_unranked_last_iff (order : StatusOrder) :
    (UnrankedLast order ↔
      (∀ status, order.Ranks status → order.rank status < order.length) ∨
        ∀ status, order.Ranks status) ∧
    ∀ findings, ∀ s ∈ ofFindings order findings,
      s.2.Pairwise fun a b => ¬ order.Ranks a.status → order.Ranks b.status →
        order.length < order.rank b.status ∨
          order.rank b.status = order.length ∧ a.priority ≤ b.priority :=
  ⟨⟨UnrankedLast.below_or_complete, fun h => h.elim unrankedLast_of_below unrankedLast_of_complete⟩,
    fun _ _ hs => unranked_before_ranked hs⟩

/-- Settings that rank two statuses in steps of ten. -/
def stepFields : List (Datum × Datum) :=
  [(.text "status_order", .record [(.text "concern", .int 10), (.text "warning", .int 20)])]

/-- Good news has the rank two and comes before a concern with the rank ten. -/
theorem not_ofFindings_unranked_last : ¬ ∀ (fields : List (Datum × Datum)) (settings : Settings),
    Settings.ofFields fields = .ok settings → UnrankedLast settings.statusOrder := by
  intro h
  let settings : Settings := { statusOrder := [(.concern, 10), (.warning, 20)] }
  have hsettings : Settings.ofFields stepFields = .ok settings := rfl
  rcases (h _ settings hsettings).below_or_complete with hbelow | hall
  · exact absurd (hbelow .concern (by decide)) (by decide)
  · exact absurd (hall .good) (by decide)

end Sections

end Scorecard
