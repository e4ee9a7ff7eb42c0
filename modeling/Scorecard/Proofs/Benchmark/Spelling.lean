import Scorecard.Proofs.Benchmark.Run
import Scorecard.Proofs.Text.Case

/-!
# Benchmarks with ids in other letter case

A benchmark is selected under its id without white space and in lower case. Its id is not read
again after that, so benchmarks whose ids are spelled in other letter case rate all readings alike.
-/

namespace Scorecard

open Text (lower)

/-- Two benchmarks that differ in nothing but the spelling of their KPI. -/
structure Benchmark.Respelled (b b' : Benchmark) : Prop where
  /-- The benchmarks agree in all but their KPIs. -/
  rest : b' = { b with kpiId := b'.kpiId }
  /-- The KPIs are the same in lower case. -/
  kpiId : lower b.kpiId = lower b'.kpiId

/-- Two selected benchmarks that differ in nothing but the spelling of their KPI. -/
structure Selected.Respelled (s s' : Selected) : Prop where
  /-- The benchmarks differ in the spelling of their KPI alone. -/
  benchmark : s.benchmark.Respelled s'.benchmark
  /-- Both are found in one scope. -/
  scope : s.scope = s'.scope
  /-- Both are divided by one number. -/
  divisor : s.divisor = s'.divisor

/-- Two selections that find under each key benchmarks that differ in spelling at most. -/
def Selection.Respelled (s s' : Selection) : Prop :=
  ∀ key, Option.Rel Selected.Respelled (s.lookup key) (s'.lookup key)

theorem Benchmark.Respelled.key {b b' : Benchmark} (h : b.Respelled b') : b.key = b'.key :=
  Text.fold_congr h.kpiId

theorem Benchmark.Respelled.scope? {b b' : Benchmark} (h : b.Respelled b') (client : Client) :
    b.scope? client = b'.scope? client := by
  rw [h.rest]
  rfl

theorem Selected.Respelled.rate {s s' : Selected} (h : s.Respelled s') (kpiId : String)
    (value : Float) : s.rate kpiId value = s'.rate kpiId value := by
  obtain ⟨b, scope, divisor⟩ := s
  obtain ⟨b', scope', divisor'⟩ := s'
  obtain ⟨hb, rfl, rfl⟩ := h
  dsimp only at hb
  rw [hb.rest]
  rfl

namespace Selection

theorem Respelled.put {s s' : Selection} (h : s.Respelled s') {key : String} {x x' : Selected}
    (hx : x.Respelled x') : Respelled (Assoc.put key x s) (Assoc.put key x' s') := by
  intro k
  rw [Assoc.lookup_put, Assoc.lookup_put]
  split
  · exact .some hx
  · exact h k

/-- Considering one more benchmark. -/
theorem Respelled.consider {s s' : Selection} (h : s.Respelled s') (client : Client)
    (divisor : Float) {b b' : Benchmark} (hb : b.Respelled b') :
    Respelled (consider client divisor s b) (consider client divisor s' b') := by
  unfold Selection.consider
  rw [← hb.scope? client, ← hb.key]
  cases b.scope? client with
  | none => exact h
  | some scope =>
    have hnew : Selected.Respelled ⟨b, scope, divisor⟩ ⟨b', scope, divisor⟩ := ⟨hb, rfl, rfl⟩
    have hkey := h b.key
    dsimp only
    generalize s.lookup b.key = current at hkey ⊢
    generalize s'.lookup b.key = current' at hkey ⊢
    cases hkey with
    | none => exact h.put hnew
    | some hcurrent =>
      dsimp only
      rw [← hcurrent.scope]
      split
      · exact h.put hnew
      · exact h

theorem Respelled.build {benchmarks benchmarks' : List Benchmark}
    (h : List.Forall₂ Benchmark.Respelled benchmarks benchmarks') (client : Client)
    (settings : Settings) :
    Respelled (build benchmarks client settings) (build benchmarks' client settings) := by
  have hfold {s s' : Selection} (hs : s.Respelled s') :
      Respelled (benchmarks.foldl (Selection.consider client (settings.divisor client.period)) s)
        (benchmarks'.foldl (Selection.consider client (settings.divisor client.period)) s') := by
    induction h generalizing s s' with
    | nil => exact hs
    | cons hb _ ih => exact ih (hs.consider client _ hb)
  exact hfold fun _ => .none

/-- Benchmarks rate all readings alike if their ids are re-spelled. -/
theorem Respelled.rateAll {s s' : Selection} (h : s.Respelled s') (ctx : Context) :
    s.rateAll ctx = s'.rateAll ctx := by
  have hrate : s.rate? = s'.rate? := by
    funext reading
    unfold rate? find?
    have hselected := h (Text.fold reading.id)
    generalize s.lookup (Text.fold reading.id) = selected at hselected ⊢
    generalize s'.lookup (Text.fold reading.id) = selected' at hselected ⊢
    cases hselected with
    | none => rfl
    | some hselected =>
      cases reading.value with
      | none => rfl
      | some value =>
        dsimp only
        rw [hselected.rate]
  unfold Selection.rateAll
  rw [hrate]

end Selection

end Scorecard
