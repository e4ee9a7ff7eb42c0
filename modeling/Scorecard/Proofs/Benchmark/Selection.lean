import Scorecard.Benchmark.Selection
import Mathlib.Data.List.MinMax

/-!
# The selected benchmarks

A benchmark is a candidate for a client if neither of its filters keeps the client out. The
selection is built in one pass over benchmarks of all KPIs; what it holds for a KPI in the end is
the first of the most specific candidates for that KPI, and benchmarks of other KPIs and those that
are no candidates play no part in it.
-/

namespace Scorecard

open Text (fold isBlank)

/-! ## Candidates -/

namespace Benchmark

/-- A filter that keeps no client out: it is blank, or a word for everything. -/
def IsOpen (filter : String) : Prop :=
  fold filter ∈ ["", "all", "*", "any"]

/-- A filter that says, up to white space around it and letter case, what a client is. -/
def Names (filter subject : String) : Prop :=
  isBlank subject = false ∧ fold filter = fold subject

/-- A benchmark neither of whose filters keeps the client out. -/
def Candidate (b : Benchmark) (client : Client) : Prop :=
  (IsOpen b.industryFilter ∨ Names b.industryFilter client.industry) ∧
    (IsOpen b.regionFilter ∨ Names b.regionFilter client.region)

/-- A candidate for one KPI. -/
def Competes (id : String) (client : Client) (b : Benchmark) : Prop :=
  fold b.kpiId = fold id ∧ b.Candidate client

instance (filter : String) : Decidable (IsOpen filter) :=
  inferInstanceAs (Decidable (_ ∈ _))

instance (filter subject : String) : Decidable (Names filter subject) :=
  inferInstanceAs (Decidable (_ ∧ _))

instance (b : Benchmark) (client : Client) : Decidable (b.Candidate client) :=
  inferInstanceAs (Decidable (_ ∧ _))

instance (id : String) (client : Client) : DecidablePred (Competes id client) :=
  fun _ => inferInstanceAs (Decidable (_ ∧ _))

/-- The scope of a candidate says which of its filters name what the client is. -/
def scopeOf (client : Client) (b : Benchmark) : Scope :=
  if Names b.industryFilter client.industry then
    if Names b.regionFilter client.region then .exact else .industry
  else if Names b.regionFilter client.region then .region else .universal

/-- A benchmark as it is selected for a client. -/
def selectedFor (client : Client) (settings : Settings) (b : Benchmark) : Selected :=
  ⟨b, b.scopeOf client, settings.divisor client.period⟩

theorem isWildcard_iff {filter : String} : isWildcard filter = true ↔ IsOpen filter :=
  List.contains_iff_mem

theorem names_iff {filter subject : String} :
    names filter subject = true ↔ Names filter subject := by
  simp [names, Names]

/-- The scopes are tried from the most specific one down; that comes to looking at each filter by
itself. -/
theorem scope?_eq (b : Benchmark) (client : Client) :
    b.scope? client = if b.Candidate client then some (b.scopeOf client) else none := by
  unfold scope? Candidate scopeOf
  simp only [Bool.and_eq_true, isWildcard_iff, names_iff]
  by_cases hi : Names b.industryFilter client.industry
  · by_cases hr : Names b.regionFilter client.region
    · simp [hi, hr]
    · by_cases hopen : IsOpen b.regionFilter <;> simp [hi, hr, hopen]
  · by_cases hopen : IsOpen b.industryFilter
    · by_cases hr : Names b.regionFilter client.region
      · simp [hi, hr, hopen]
      · by_cases hopen' : IsOpen b.regionFilter <;> simp [hi, hr, hopen, hopen']
    · simp [hi, hopen]

end Benchmark

/-! ## The first of the greatest -/

section Argmax

variable {α : Type} {p : α → Prop} [DecidablePred p] {f : α → Nat} {m : α}

theorem exists_append_of_argmax_filter {l : List α} (h : (l.filter p).argmax f = some m) :
    ∃ before after, l = before ++ m :: after ∧ p m ∧ (∀ a ∈ before, p a → f a < f m) ∧
      ∀ a ∈ after, p a → f a ≤ f m := by
  induction l with
  | nil => simp at h
  | cons a l ih =>
    by_cases ha : p a
    · rw [List.filter_cons_of_pos (by simpa using ha), List.argmax_cons] at h
      cases hl : (l.filter p).argmax f with
      | none =>
        have hnone : ∀ x ∈ l, ¬ p x := by simpa using List.argmax_eq_none.1 hl
        rw [hl] at h
        obtain rfl := Option.some.inj h
        exact ⟨[], l, rfl, ha, by simp, fun x hx hpx => absurd hpx (hnone x hx)⟩
      | some c =>
        rw [hl] at h
        dsimp only at h
        split at h
        · rename_i hlt
          obtain rfl := Option.some.inj h
          obtain ⟨before, after, rfl, hm, hbefore, hafter⟩ := ih hl
          exact ⟨a :: before, after, rfl, hm,
            List.forall_mem_cons.2 ⟨fun _ => hlt, hbefore⟩, hafter⟩
        · rename_i hle
          obtain rfl := Option.some.inj h
          refine ⟨[], l, rfl, ha, by simp, fun x hx hpx => ?_⟩
          have hxc : f x ≤ f c := List.le_of_mem_argmax (List.mem_filter.2 ⟨hx, by simpa⟩) hl
          exact hxc.trans (not_lt.1 hle)
    · rw [List.filter_cons_of_neg (by simpa using ha)] at h
      obtain ⟨before, after, rfl, hm, hbefore, hafter⟩ := ih h
      exact ⟨a :: before, after, rfl, hm,
        List.forall_mem_cons.2 ⟨fun hpa => absurd hpa ha, hbefore⟩, hafter⟩

theorem argmax_filter_append {before after : List α} (hm : p m)
    (hbefore : ∀ a ∈ before, p a → f a < f m) (hafter : ∀ a ∈ after, p a → f a ≤ f m) :
    ((before ++ m :: after).filter p).argmax f = some m := by
  induction before with
  | nil =>
    rw [List.nil_append, List.filter_cons_of_pos (by simpa using hm), List.argmax_cons]
    cases hl : (after.filter p).argmax f with
    | none => rfl
    | some c =>
      obtain ⟨hc, hpc⟩ := List.mem_filter.1 (List.argmax_mem hl)
      exact if_neg (not_lt.2 (hafter c hc (by simpa using hpc)))
  | cons a before ih =>
    obtain ⟨ha, hbefore⟩ := List.forall_mem_cons.1 hbefore
    rw [List.cons_append, List.filter_cons]
    split
    · rename_i hpa
      rw [List.argmax_cons, ih hbefore]
      exact if_pos (ha (by simpa using hpa))
    · exact ih hbefore

/-- The greatest item with a property, and the first one of several: of those with the property,
the ones before it are less and the ones after it are not greater. -/
theorem argmax_filter_eq_some_iff {l : List α} :
    (l.filter p).argmax f = some m ↔ ∃ before after, l = before ++ m :: after ∧ p m ∧
      (∀ a ∈ before, p a → f a < f m) ∧ ∀ a ∈ after, p a → f a ≤ f m := by
  constructor
  · exact exists_append_of_argmax_filter
  · rintro ⟨before, after, rfl, hm, hbefore, hafter⟩
    exact argmax_filter_append hm hbefore hafter

end Argmax

namespace Selection

variable (client : Client) (settings : Settings)

/-- The choice for a KPI after one more benchmark. -/
theorem find?_consider (divisor : Float) (selection : Selection) (b : Benchmark) (id : String) :
    (consider client divisor selection b).find? id =
      if b.Competes id client then
        match selection.find? id with
        | none => some ⟨b, b.scopeOf client, divisor⟩
        | some current =>
          if current.scope.rank < (b.scopeOf client).rank then some ⟨b, b.scopeOf client, divisor⟩
          else some current
      else selection.find? id := by
  unfold consider find?
  rw [Benchmark.scope?_eq]
  by_cases hcandidate : b.Candidate client
  · rw [if_pos hcandidate]
    dsimp only
    by_cases hkey : b.key = fold id
    · rw [if_pos ⟨hkey, hcandidate⟩, ← hkey]
      cases hcurrent : selection.lookup b.key with
      | none => simp [Assoc.lookup_put]
      | some current =>
        dsimp only
        split
        · simp [Assoc.lookup_put]
        · exact hcurrent
    · have hother (x : Selected) : (Assoc.put b.key x selection).lookup (fold id) =
          selection.lookup (fold id) := by
        rw [Assoc.lookup_put, if_neg (Ne.symm hkey)]
      rw [if_neg fun h => hkey h.1]
      cases selection.lookup b.key with
      | none => exact hother _
      | some current =>
        dsimp only
        split
        · exact hother _
        · rfl
  · rw [if_neg hcandidate, if_neg fun h => hcandidate h.2]

variable {client settings}

/-- What is selected for a KPI is the best of the candidates for it, whatever stands between
them. -/
theorem find?_build_eq_argmax (benchmarks : List Benchmark) (id : String) :
    (build benchmarks client settings).find? id =
      ((benchmarks.filter (·.Competes id client)).argmax fun b => (b.scopeOf client).rank).map
        (·.selectedFor client settings) := by
  -- The pass goes from the first benchmark to the last, so the last one is split off.
  induction benchmarks using List.reverseRecOn with
  | nil => rfl
  | append_singleton benchmarks b ih =>
    have hstep : build (benchmarks ++ [b]) client settings =
        consider client (settings.divisor client.period) (build benchmarks client settings) b := by
      rw [build, List.foldl_append]
      rfl
    rw [hstep, find?_consider, ih, List.filter_append]
    by_cases hb : b.Competes id client
    · rw [if_pos hb, List.filter_cons_of_pos (by simpa using hb), List.filter_nil,
        List.argmax_concat]
      cases (benchmarks.filter (·.Competes id client)).argmax fun b => (b.scopeOf client).rank with
      | none => rfl
      | some c =>
        dsimp only [Option.map_some, Benchmark.selectedFor]
        split
        · rfl
        · rfl
    · rw [if_neg hb, List.filter_cons_of_neg (by simpa using hb), List.filter_nil,
        List.append_nil]

theorem find?_build_eq_some_iff (benchmarks : List Benchmark) (id : String) (s : Selected) :
    (build benchmarks client settings).find? id = some s ↔
      ∃ before b after, benchmarks = before ++ b :: after ∧ b.Competes id client ∧
        s = b.selectedFor client settings ∧
        (∀ a ∈ before, a.Competes id client →
          (a.scopeOf client).rank < (b.scopeOf client).rank) ∧
        ∀ a ∈ after, a.Competes id client →
          (a.scopeOf client).rank ≤ (b.scopeOf client).rank := by
  rw [find?_build_eq_argmax, Option.map_eq_some_iff]
  constructor
  · rintro ⟨b, hb, rfl⟩
    obtain ⟨before, after, hsplit, hcompetes, hbest⟩ := argmax_filter_eq_some_iff.1 hb
    exact ⟨before, b, after, hsplit, hcompetes, rfl, hbest⟩
  · rintro ⟨before, b, after, hsplit, hcompetes, rfl, hbest⟩
    exact ⟨b, argmax_filter_eq_some_iff.2 ⟨before, after, hsplit, hcompetes, hbest⟩, rfl⟩

end Selection

end Scorecard
