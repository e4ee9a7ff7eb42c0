import Scorecard.Proofs.Benchmark.Rating
import Scorecard.Proofs.Check.Figures
import Scorecard.Proofs.Run.Basic
import Scorecard.Proofs.Validation.Run

/-!
# The figures of a report

Readings and values of expressions are finite, and so are the thresholds that a figure is rated by,
since a benchmark with others is not used. What an analysis computes from two figures may be out of
range all the same: the variance of an issue is infinite if its two figures are too far apart. Every
other number in a report is finite.
-/

namespace Scorecard

/-! ## Benchmark results -/

/-- A benchmark result with a finite figure and finite thresholds. -/
structure BenchmarkResult.Finite (result : BenchmarkResult) : Prop where
  /-- The figure is finite. -/
  value : result.value.isFinite = true
  /-- All four thresholds are finite. -/
  levels : ∀ x ∈ result.levels.toList, x.isFinite = true

theorem Selected.rate_finite {s : Selected} {kpiId : String} {value : Float}
    {result : BenchmarkResult} (h : s.rate kpiId value = .ok (.ok result))
    (hvalue : value.isFinite = true) : result.Finite := by
  obtain ⟨levels, -, h⟩ := bind_eq_ok_iff.1 h
  dsimp only at h
  split at h
  · rename_i numbers rating hnumbers _
    obtain rfl := Except.ok.inj (Except.ok.inj h)
    exact ⟨hvalue, (Levels.finite?_eq_some_iff.1 hnumbers).2⟩
  · simp [pure, Except.pure] at h

theorem Selection.rate?_finite {selection : Selection} {reading : Reading}
    {result : BenchmarkResult} (h : selection.rate? reading = .ok (some (.ok result)))
    (hsound : reading.Sound) : result.Finite := by
  unfold Selection.rate? at h
  split at h
  · rename_i value selected hvalue _
    obtain ⟨rated, hrated, h⟩ := map_eq_ok_iff.1 h
    obtain rfl := Option.some.inj h
    exact Selected.rate_finite hrated (hsound.finite value hvalue)
  · simp at h

theorem RatingRun.mem_results_ofRated {rated : List Rated} {result : BenchmarkResult}
    (h : result ∈ (ofRated rated).results) : .ok result ∈ rated := by
  obtain ⟨outcome, hmem, houtcome⟩ := List.mem_filterMap.1 h
  cases outcome with
  | error w => cases houtcome
  | ok found =>
    obtain rfl := Option.some.inj houtcome
    exact hmem

/-- Every benchmark result of readings with finite numbers is finite. -/
theorem Selection.rateAll_finite {selection : Selection} {ctx : Context} {run : RatingRun}
    (h : selection.rateAll ctx = .ok run)
    (hsound : ∀ reading ∈ ctx.readings.entries, reading.Sound) :
    ∀ result ∈ run.results, result.Finite := by
  intro result hresult
  obtain ⟨rated, hrated, h⟩ := bind_eq_ok_iff.1 h
  obtain rfl := Except.ok.inj h
  have hmem := RatingRun.mem_results_ofRated hresult
  obtain ⟨outcome, houtcome, hsome⟩ := List.mem_filterMap.1 hmem
  obtain ⟨reading, hreading, hrate⟩ := (mem_iff_of_mapM_eq_ok hrated).1 houtcome
  obtain rfl : outcome = some (.ok result) := hsome
  exact rate?_finite hrate (hsound reading hreading)

/-! ## Issues -/

/-- An issue with figures in range. -/
def Issue.InRange (issue : Issue) : Prop :=
  FiguresInRange issue.actual issue.expected issue.variance

/-- Every issue of a run has figures in range. -/
theorem validate_inRange {rules : List ValidationRule} {ctx : Context} {ids : Option (List String)}
    {run : ValidationRun} (h : validate rules ctx ids .standard = .ok run) :
    ∀ issue ∈ run.issues, issue.InRange := by
  intro issue hissue
  obtain ⟨results, hresults, h⟩ := bind_eq_ok_iff.1 h
  obtain rfl := Except.ok.inj h
  obtain ⟨result, hmem, hissue⟩ := List.mem_filterMap.1 hissue
  obtain ⟨rule, -, hresult⟩ := (mem_iff_of_mapM_eq_ok hresults).1 hmem
  rcases ValidationRule.result_eq_ok_iff.1 hresult with ⟨-, rfl⟩ | ⟨outcome, -, houtcome, hend⟩
  · cases hissue
  · rcases hend with ⟨-, rfl⟩ | ⟨-, issue', hrender, rfl⟩
    · cases hissue
    · obtain rfl := Option.some.inj hissue
      have htells := ValidationRule.issue_tellsOf hrender
      rw [Issue.InRange, htells.actual, htells.expected, htells.variance]
      exact ValidationRule.execute_inRange houtcome

/-! ## Reports -/

/-- In every report of the readings of a mapping the benchmark results are finite, and so are the
figures of the issues. The variance of an issue is finite if its two figures are less than the bound
of the range apart, and infinite otherwise. -/
theorem Context.analyse_inRange {values : List (String × Datum)} {ctx : Context}
    (hreadings : Readings.ofEntries values = .ok ctx.readings) {config : Configuration}
    {ids : Option (List String)} {order : Option StatusOrder} {report : Report}
    (h : ctx.analyse config ids order = .ok report) :
    (∀ issue ∈ report.issues, issue.InRange) ∧ ∀ result ∈ report.benchmarks, result.Finite := by
  obtain ⟨validation, rating, insight, hvalidation, hrating, -, rfl⟩ := analyse_eq_ok_iff.1 h
  exact ⟨validate_inRange hvalidation,
    Selection.rateAll_finite hrating (Readings.sound_ofEntries hreadings)⟩

/-- Two values that are finite and further apart than the range of doubles. -/
def farValues : List (String × Datum) :=
  [("gain", .float 1.7e308), ("loss", .text "-17E307"), ("staff", .int 12)]

/-- Rules on two values that are far apart, and a benchmark for a third one. -/
def farConfiguration : Configuration where
  validationRules := [{ id := "same", formula := "EQUALS:gain:loss" },
    { id := "few", formula := "RANGE:staff:1:10" }]
  benchmarks := [{ kpiId := "staff", levels := ⟨some 1.0, some 2.0, some 5.0, some 9.0⟩ }]

theorem analyseValues_far :
    ∃ report, analyseValues farValues {} {} [] farConfiguration none none = .ok report :=
  exists_eq_ok (by decide +kernel)

theorem Context.analyse_far :
    ∃ (ctx : Context) (report : Report), Readings.ofEntries farValues = .ok ctx.readings ∧
      ctx.analyse farConfiguration none none = .ok report ∧
      (∀ issue ∈ report.issues, issue.InRange) ∧ ∀ result ∈ report.benchmarks, result.Finite := by
  obtain ⟨report, hreport⟩ := analyseValues_far
  obtain ⟨readings, hreadings, hanalyse⟩ := analyseValues_eq_ok_iff.1 hreport
  exact ⟨_, report, hreadings, hanalyse, Context.analyse_inRange hreadings hanalyse⟩

/-- The variance of two finite figures that are too far apart is not finite. -/
theorem analyse_infinite_variance :
    ¬ ∀ (values : List (String × Datum)) (config : Configuration) (report : Report),
      analyseValues values {} {} [] config none none = .ok report →
        (∀ issue ∈ report.issues,
          ∀ x ∈ [issue.actual, issue.expected, issue.variance], ∀ y, x = some y →
            y.isFinite = true) ∧
        ∀ result ∈ report.benchmarks, result.Finite := by
  intro h
  obtain ⟨report, hreport⟩ := analyseValues_far
  have hinfinite : ((analyseValues farValues {} {} [] farConfiguration none none).map fun report =>
      report.issues.all fun issue => issue.variance.all (·.isFinite)).toOption = some false := by
    decide +kernel
  rw [hreport] at hinfinite
  have hfinite : report.issues.all (fun issue => issue.variance.all (·.isFinite)) = true := by
    refine List.all_eq_true.2 fun issue hissue => (Option.all_eq_true _ _).2 fun v hv => ?_
    exact (h _ _ _ hreport).1 issue hissue issue.variance (by simp) v hv
  rw [Except.map, Except.toOption, hfinite] at hinfinite
  cases hinfinite

end Scorecard
