import Scorecard.Proofs.Benchmark.Rating
import Scorecard.Proofs.Decimal.Range
import Scorecard.Schema.Settings

/-!
# A divisor of zero

Thresholds for a whole year are divided by the divisor of the client's period, which settings may
have as zero. Rating then fails exactly if it comes to a division: some KPI has a figure, and the
benchmark selected for it is for a whole year and has a threshold at all. Nothing else makes rating
fail, whatever the benchmarks and the readings are.
-/

namespace Scorecard

/-- There are two zeros, and neither of them is equal to one. -/
theorem beq_one_of_beq_zero {x : Float} (h : (x == 0.0) = true) : (x == 1.0) = false := by
  obtain ⟨-, -, hx⟩ := Float.beq_iff_ne_nan_and_eq.1 h
  rcases hx with rfl | ⟨rfl, -⟩ | ⟨rfl, -⟩
  · rfl
  · rfl
  · rfl

/-! ## One benchmark -/

theorem dividedBy_eq_error_iff {divisor : Float} {t : Option Float} {f : Fault} :
    dividedBy divisor t = .error f ↔
      f = .zeroDivisor ∧ (divisor == 0.0) = true ∧ t.isSome = true := by
  cases t with
  | none => simp [dividedBy]
  | some x =>
    rw [dividedBy]
    split
    · rename_i hzero
      simp [hzero, eq_comm]
    · rename_i hzero
      simp [hzero]

theorem Levels.mapM_toList {α β : Type} (f : α → Except Fault β) (levels : Levels α) :
    levels.toList.mapM f = (levels.mapM f).map toList := by
  obtain ⟨poor, average, good, excellent⟩ := levels
  simp only [toList, mapM, List.mapM_cons, List.mapM_nil]
  cases f poor <;> cases f average <;> cases f good <;> cases f excellent <;> rfl

/-- Whether a benchmark has a threshold that is for a whole year. -/
def Benchmark.Divides (b : Benchmark) : Prop :=
  b.basis = .annual ∧ ∃ t ∈ b.levels.toList, t.isSome = true

theorem Selected.levels_eq_error_iff {s : Selected} {f : Fault} :
    s.levels = .error f ↔
      f = .zeroDivisor ∧ (s.divisor == 0.0) = true ∧ s.benchmark.Divides := by
  by_cases hzero : (s.divisor == 0.0) = true
  · by_cases hannual : s.benchmark.basis = .annual
    · have hlevels : s.levels = s.benchmark.levels.mapM (dividedBy s.divisor) := by
        rw [levels, if_neg]
        simp [hannual, beq_one_of_beq_zero hzero]
      have hreason : ∀ t ∈ s.benchmark.levels.toList, ∀ f, dividedBy s.divisor t = .error f →
          f = .zeroDivisor := fun t _ f hf => (dividedBy_eq_error_iff.1 hf).1
      rw [hlevels, ← map_eq_error_iff, ← Levels.mapM_toList, mapM_eq_error_iff_exists hreason]
      simp only [dividedBy_eq_error_iff]
      constructor
      · rintro ⟨t, ht, hf, -, hthere⟩
        exact ⟨hf, hzero, hannual, t, ht, hthere⟩
      · rintro ⟨hf, -, -, t, ht, hthere⟩
        exact ⟨t, ht, hf, hzero, hthere⟩
    · have hlevels : s.levels = .ok s.benchmark.levels := by
        rw [levels, if_pos]
        simp [hannual]
      simp [hlevels, Benchmark.Divides, hannual]
  · rw [levels_eq (by simpa using hzero)]
    simp [hzero]

/-- The thresholds are all that can fail in rating a figure by a benchmark. -/
theorem Selected.rate_eq_error_iff {s : Selected} {kpiId : String} {value : Float} {f : Fault} :
    s.rate kpiId value = .error f ↔ s.levels = .error f := by
  rw [rate, bind_eq_error_iff]
  constructor
  · rintro (h | ⟨levels, -, h⟩)
    · exact h
    · dsimp only at h
      split at h <;> cases h
  · exact .inl

/-! ## All readings -/

namespace Selection

variable {selection : Selection}

theorem rate?_eq_error_iff {reading : Reading} {f : Fault} :
    selection.rate? reading = .error f ↔
      ∃ c, selection.contender? reading = some c ∧ c.selected.levels = .error f := by
  cases hc : selection.contender? reading with
  | none => simp [rate?_of_none hc]
  | some c =>
    obtain ⟨-, hvalue, hfind⟩ := contender?_eq_some_iff.1 hc
    have hrate : selection.rate? reading = (c.selected.rate reading.id c.value).map some := by
      unfold rate?
      rw [hvalue, hfind]
    rw [hrate, map_eq_error_iff, Selected.rate_eq_error_iff]
    simp

theorem rateAll_eq_error_iff {ctx : Context} {f : Fault} :
    selection.rateAll ctx = .error f ↔ f = .zeroDivisor ∧
      ∃ c ∈ selection.contenders ctx.readings,
        (c.selected.divisor == 0.0) = true ∧ c.selected.benchmark.Divides := by
  have hreason : ∀ reading ∈ ctx.readings.entries, ∀ f, selection.rate? reading = .error f →
      f = .zeroDivisor := by
    intro reading _ f hf
    obtain ⟨c, -, hlevels⟩ := rate?_eq_error_iff.1 hf
    exact (Selected.levels_eq_error_iff.1 hlevels).1
  have hrated : selection.rateAll ctx = .error f ↔
      ∃ reading ∈ ctx.readings.entries, selection.rate? reading = .error f := by
    rw [rateAll, bind_eq_error_iff, mapM_eq_error_iff_exists hreason]
    simp [pure, Except.pure]
  rw [hrated]
  simp only [rate?_eq_error_iff, Selected.levels_eq_error_iff, contenders, List.mem_filterMap]
  constructor
  · rintro ⟨reading, hmem, c, hc, hf, hzero, hdivides⟩
    exact ⟨hf, c, ⟨reading, hmem, hc⟩, hzero, hdivides⟩
  · rintro ⟨hf, c, ⟨reading, hmem, hc⟩, hzero, hdivides⟩
    exact ⟨reading, hmem, c, hc, hf, hzero, hdivides⟩

theorem divisor_of_mem_contenders {benchmarks : List Benchmark} {client : Client}
    {settings : Settings} {readings : Readings} {c : Contender}
    (h : c ∈ (build benchmarks client settings).contenders readings) :
    c.selected.divisor = settings.divisor client.period := by
  obtain ⟨reading, -, hc⟩ := List.mem_filterMap.1 h
  exact divisor_of_find?_build (contender?_eq_some_iff.1 hc).2.2

end Selection

/-- Whether rating comes to a division by zero. -/
def Context.DividesByZero (ctx : Context) (benchmarks : List Benchmark) : Prop :=
  (ctx.settings.divisor ctx.client.period == 0.0) = true ∧
    ∃ c ∈ (Selection.build benchmarks ctx.client ctx.settings).contenders ctx.readings,
      c.selected.benchmark.Divides

theorem Selection.rateAll_build_eq_error_iff {benchmarks : List Benchmark} {ctx : Context}
    {f : Fault} : (build benchmarks ctx.client ctx.settings).rateAll ctx = .error f ↔
      f = .zeroDivisor ∧ ctx.DividesByZero benchmarks := by
  rw [rateAll_eq_error_iff]
  -- All selected benchmarks have the same divisor.
  constructor
  · rintro ⟨hf, c, hc, hzero, hdivides⟩
    rw [divisor_of_mem_contenders hc] at hzero
    exact ⟨hf, hzero, c, hc, hdivides⟩
  · rintro ⟨hf, hzero, c, hc, hdivides⟩
    rw [← divisor_of_mem_contenders hc] at hzero
    exact ⟨hf, c, hc, hzero, hdivides⟩

theorem Selection.exists_rateAll_build_iff {benchmarks : List Benchmark} {ctx : Context} :
    (∃ run, (build benchmarks ctx.client ctx.settings).rateAll ctx = .ok run) ↔
      ¬ ctx.DividesByZero benchmarks := by
  rw [exists_ok_iff_forall_ne_error]
  constructor
  · intro hnone hzero
    exact hnone .zeroDivisor (rateAll_build_eq_error_iff.2 ⟨rfl, hzero⟩)
  · intro hnot f hf
    exact hnot (rateAll_build_eq_error_iff.1 hf).2

/-- Rating completes, for all benchmarks and readings, unless the divisor of the client's period is
zero and the benchmark of some KPI that has a figure gives a threshold for a whole year. Then the
division by zero is what it fails with. -/
theorem Selection.rateAll_completes_iff (benchmarks : List Benchmark) (ctx : Context) :
    ((∃ run, (build benchmarks ctx.client ctx.settings).rateAll ctx = .ok run) ↔
        ¬ ctx.DividesByZero benchmarks) ∧
      ∀ f, (build benchmarks ctx.client ctx.settings).rateAll ctx = .error f ↔
        f = .zeroDivisor ∧ ctx.DividesByZero benchmarks :=
  ⟨exists_rateAll_build_iff, fun _ => rateAll_build_eq_error_iff⟩

/-- Settings with a divisor of zero for months. -/
def zeroDivisorFields : List (Datum × Datum) :=
  [(.text "period_divisors", .record [(.text "monthly", .int 0)])]

/-- A benchmark for a whole year. -/
def yearBenchmark : Benchmark where
  kpiId := "revenue"
  levels := ⟨some 120.0, some 240.0, some 360.0, some 480.0⟩
  basis := .annual

/-- The schema of settings lets a divisor of zero pass, and rating does not. -/
theorem Selection.rateAll_zeroDivisor : ¬ ∀ (fields : List (Datum × Datum)) (settings : Settings)
    (client : Client) (benchmarks : List Benchmark) (entries : List (String × Datum))
    (readings : Readings), Settings.ofFields fields = .ok settings →
      Readings.ofEntries entries = .ok readings →
      ∃ run, (build benchmarks client settings).rateAll { readings, client, settings } =
        .ok run := by
  intro h
  have hfails : (Settings.ofFields zeroDivisorFields).toOption.bind (fun settings =>
      (Readings.ofEntries [("revenue", .int 50)]).toOption.bind fun readings =>
        ((build [yearBenchmark] { period := .monthly } settings).rateAll
          { readings, client := { period := .monthly }, settings }).toOption.map fun _ => ()) =
      none := by decide
  obtain ⟨settings, hsettings⟩ : ∃ settings, Settings.ofFields zeroDivisorFields = .ok settings :=
    exists_eq_ok (by decide)
  obtain ⟨readings, hreadings⟩ : ∃ readings,
      Readings.ofEntries [("revenue", .int 50)] = .ok readings := exists_eq_ok (by decide)
  obtain ⟨run, hrun⟩ := h zeroDivisorFields settings { period := .monthly } [yearBenchmark]
    [("revenue", .int 50)] readings hsettings hreadings
  rw [hsettings, hreadings] at hfails
  simp only [Except.toOption, Option.bind_some, hrun] at hfails
  cases hfails

end Scorecard
