import Scorecard.Proofs.Assoc
import Scorecard.Proofs.Benchmark.Run
import Scorecard.Proofs.Benchmark.Selection

/-!
# What rating the readings comes to

A KPI contends for a rating if it has a figure and a benchmark is selected for it. Each contender
is either rated or warned about, and it is warned about exactly if one of its four thresholds for
the client's period is absent or not finite. Results, ratings and warnings follow the readings, and
every result can be recomputed from what it shows.
-/

namespace Scorecard

/-! ## Thresholds -/

namespace Levels

/-- Whether all four thresholds are there and finite. -/
def Complete (levels : Levels (Option Float)) : Prop :=
  ∀ threshold ∈ levels.toList, threshold.any Float.isFinite = true

instance (levels : Levels (Option Float)) : Decidable levels.Complete :=
  inferInstanceAs (Decidable (∀ _ ∈ _, _))

theorem finite?_eq_some_iff {levels : Levels (Option Float)} {numbers : Levels Float} :
    levels.finite? = some numbers ↔
      levels = numbers.map some ∧ ∀ x ∈ numbers.toList, x.isFinite = true := by
  obtain ⟨poor, average, good, excellent⟩ := levels
  obtain ⟨poor', average', good', excellent'⟩ := numbers
  have hone (t : Option Float) (x : Float) :
      t.bind Scorecard.finite? = some x ↔ t = some x ∧ x.isFinite = true := by
    rw [Option.bind_eq_some_iff]
    constructor
    · rintro ⟨y, rfl, hy⟩
      obtain ⟨rfl, hfinite⟩ := Scorecard.finite?_eq_some_iff.1 hy
      exact ⟨rfl, hfinite⟩
    · rintro ⟨rfl, hfinite⟩
      exact ⟨x, rfl, Scorecard.finite?_eq_some_iff.2 ⟨rfl, hfinite⟩⟩
  simp only [finite?, mapM, map, toList, bind, pure, Option.bind_eq_some_iff, hone, mk.injEq,
    Option.some.injEq, List.forall_mem_cons, List.not_mem_nil]
  constructor
  · rintro ⟨_, ⟨rfl, h₁⟩, _, ⟨rfl, h₂⟩, _, ⟨rfl, h₃⟩, _, ⟨rfl, h₄⟩, rfl, rfl, rfl, rfl⟩
    exact ⟨⟨rfl, rfl, rfl, rfl⟩, h₁, h₂, h₃, h₄, nofun⟩
  · rintro ⟨⟨rfl, rfl, rfl, rfl⟩, h₁, h₂, h₃, h₄, -⟩
    exact ⟨_, ⟨rfl, h₁⟩, _, ⟨rfl, h₂⟩, _, ⟨rfl, h₃⟩, _, ⟨rfl, h₄⟩, rfl, rfl, rfl, rfl⟩

theorem complete_iff {levels : Levels (Option Float)} :
    levels.Complete ↔ ∃ numbers, levels.finite? = some numbers := by
  constructor
  · intro h
    obtain ⟨poor, average, good, excellent⟩ := levels
    have hone (t : Option Float) (ht : t ∈ [poor, average, good, excellent]) :
        ∃ x, t = some x ∧ x.isFinite = true := by
      have hany := h t ht
      cases t with
      | none => cases hany
      | some x => exact ⟨x, rfl, hany⟩
    obtain ⟨a, rfl, ha⟩ := hone poor (by simp)
    obtain ⟨b, rfl, hb⟩ := hone average (by simp)
    obtain ⟨c, rfl, hc⟩ := hone good (by simp)
    obtain ⟨d, rfl, hd⟩ := hone excellent (by simp)
    refine ⟨⟨a, b, c, d⟩, finite?_eq_some_iff.2 ⟨rfl, ?_⟩⟩
    simp [toList, ha, hb, hc, hd]
  · rintro ⟨numbers, h⟩ t ht
    obtain ⟨rfl, hfinite⟩ := finite?_eq_some_iff.1 h
    obtain ⟨x, hx, rfl⟩ : ∃ x ∈ numbers.toList, some x = t := by
      simpa [toList, map, eq_comm] using ht
    exact hfinite x hx

theorem rate?_of_finite {levels : Levels (Option Float)} {numbers : Levels Float} {value : Float}
    (h : levels.finite? = some numbers) (hvalue : value.isFinite = true) (direction : Direction) :
    levels.rate? direction value = some (numbers.rate direction value) := by
  rw [rate?, if_neg (Bool.eq_false_iff.1 (isNaN_eq_false_of_isFinite hvalue)), h, Option.map_some]

end Levels

theorem Direction.read_name (direction : Direction) : read direction.name = .ok direction := by
  cases direction
  · decide
  · decide

/-- Data that give a finite figure and four thresholds, which are finite as every number of a datum
is. -/
structure GiveRating (value thresholds : Datum) (x : Float) (numbers : Levels Float) : Prop where
  /-- The figure is read. -/
  figure : figure? value = .ok (some x)
  /-- The figure is finite. -/
  finite : x.isFinite = true
  /-- There are four thresholds, and each of them is a number. -/
  levels : ∃ data, thresholds? thresholds = .ok (some data) ∧
    data.mapM Datum.number? = .ok (numbers.map some)

theorem Levels.finite_of_mapM_number? {data : Levels Datum} {numbers : Levels Float}
    (h : data.mapM Datum.number? = .ok (numbers.map some)) :
    ∀ x ∈ numbers.toList, x.isFinite = true := by
  obtain ⟨poor, hpoor, h⟩ := bind_eq_ok_iff.1 h
  obtain ⟨average, haverage, h⟩ := bind_eq_ok_iff.1 h
  obtain ⟨good, hgood, h⟩ := bind_eq_ok_iff.1 h
  obtain ⟨excellent, hexcellent, h⟩ := bind_eq_ok_iff.1 h
  cases h
  simp only [toList, List.forall_mem_cons]
  exact ⟨Datum.number?_isFinite hpoor, Datum.number?_isFinite haverage,
    Datum.number?_isFinite hgood, Datum.number?_isFinite hexcellent, by simp⟩

/-- Data that give finite numbers are rated as the numbers are. -/
theorem GiveRating.rateData_eq {value thresholds : Datum} {x : Float} {numbers : Levels Float}
    (h : GiveRating value thresholds x numbers) (direction : Direction) :
    rateData value thresholds direction.name = .ok (some (numbers.rate direction x)) := by
  obtain ⟨data, hthresholds, hread⟩ := h.levels
  have hnan : ¬ x.isNaN = true := Bool.eq_false_iff.1 (isNaN_eq_false_of_isFinite h.finite)
  have hrate : (numbers.map some).rate? direction x = some (numbers.rate direction x) :=
    Levels.rate?_of_finite
      (Levels.finite?_eq_some_iff.2 ⟨rfl, Levels.finite_of_mapM_number? hread⟩) h.finite direction
  unfold rateData
  simp only [Direction.read_name, h.figure, hthresholds, hread, hrate, if_neg hnan, bind,
    Except.bind, pure, Except.pure]

theorem GiveRating.of_floats {value : Float} {numbers : Levels Float}
    (hvalue : value.isFinite = true) (hnumbers : ∀ x ∈ numbers.toList, x.isFinite = true) :
    GiveRating (.float value) (.list (numbers.toList.map .float)) value numbers := by
  have hone (x : Float) (hx : x ∈ numbers.toList) : (Datum.float x).number? = .ok (some x) :=
    congrArg Except.ok (finite?_eq_some_iff.2 ⟨rfl, hnumbers x hx⟩)
  refine ⟨rfl, hvalue, numbers.map .float, rfl, ?_⟩
  simp only [Levels.map, Levels.mapM, bind, Except.bind, pure, Except.pure,
    hone numbers.poor (by simp [Levels.toList]), hone numbers.average (by simp [Levels.toList]),
    hone numbers.good (by simp [Levels.toList]), hone numbers.excellent (by simp [Levels.toList])]

/-! ## One KPI -/

/-- The thresholds of a selected benchmark for the client's period. -/
def Selected.periodLevels (s : Selected) : Levels (Option Float) :=
  if s.benchmark.basis ≠ .annual || s.divisor == 1.0 then s.benchmark.levels
  else s.benchmark.levels.map (·.map (· / s.divisor))

theorem Selected.levels_eq {s : Selected} (h : (s.divisor == 0.0) = false) :
    s.levels = .ok s.periodLevels := by
  have hone (t : Option Float) : dividedBy s.divisor t = .ok (t.map (· / s.divisor)) := by
    cases t with
    | none => rfl
    | some x => exact if_neg (by simp [h])
  unfold levels periodLevels
  split
  · rfl
  · simp only [Levels.mapM, Levels.map, hone, bind, Except.bind, pure, Except.pure]

/-- A KPI that has a figure and for which a benchmark is selected. -/
structure Contender where
  /-- The KPI as its reading spells it. -/
  id : String
  /-- The figure of the KPI. -/
  value : Float
  /-- The benchmark that is selected for the KPI. -/
  selected : Selected

namespace Contender

/-- Whether all thresholds for the client's period are there and finite. -/
def Ratable (c : Contender) : Prop :=
  c.selected.periodLevels.Complete

instance : DecidablePred Ratable :=
  fun c => inferInstanceAs (Decidable c.selected.periodLevels.Complete)

/-- The warning about a KPI with incomplete thresholds. -/
def warning (c : Contender) : Warning :=
  ⟨.benchmark, c.id, .notRated⟩

/-- The result of a KPI by four numbers for the client's period. -/
def result (c : Contender) (numbers : Levels Float) : BenchmarkResult where
  kpiId := c.id
  value := c.value
  rating := numbers.rate c.selected.benchmark.direction c.value
  direction := c.selected.benchmark.direction
  levels := numbers
  industryFilter := c.selected.benchmark.industryFilter
  regionFilter := c.selected.benchmark.regionFilter

end Contender

/-- A result that shows the figure of a KPI, its selected benchmark and the thresholds for the
client's period, and whose rating can be recomputed from what it shows. -/
structure BenchmarkResult.TellsOf (r : BenchmarkResult) (c : Contender) : Prop where
  /-- The KPI is spelled as its reading spells it. -/
  kpiId : r.kpiId = c.id
  /-- The figure is that of the KPI. -/
  value : r.value = c.value
  /-- The thresholds are those for the client's period. -/
  levels : r.levels.map some = c.selected.periodLevels
  /-- The direction is that of the benchmark. -/
  direction : r.direction = c.selected.benchmark.direction
  /-- The filter of industries is that of the benchmark. -/
  industryFilter : r.industryFilter = c.selected.benchmark.industryFilter
  /-- The filter of regions is that of the benchmark. -/
  regionFilter : r.regionFilter = c.selected.benchmark.regionFilter
  /-- The rating is that of the figure by the thresholds that are shown. -/
  rating : (r.levels.map some).rate? r.direction r.value = some r.rating
  /-- The rating is given again by the figure, the thresholds and the direction as data. -/
  ratingOfData : rateData (.float r.value) (.list (r.levels.toList.map .float)) r.direction.name =
    .ok (some r.rating)

/-- What becomes of a contender: it is rated if its thresholds are complete, and warned about if
they are not. -/
def Contender.Settles (c : Contender) (rated : Rated) : Prop :=
  (c.Ratable ∧ ∃ r, rated = .ok r ∧ r.TellsOf c) ∨ (¬ c.Ratable ∧ rated = .error c.warning)

theorem Contender.exists_settles {c : Contender} (hdivisor : (c.selected.divisor == 0.0) = false)
    (hvalue : c.value.isFinite = true) :
    ∃ rated, c.selected.rate c.id c.value = .ok rated ∧ c.Settles rated := by
  cases hfinite : c.selected.periodLevels.finite? with
  | none =>
    have hratable : ¬ c.Ratable := by
      rw [Ratable, Levels.complete_iff, hfinite]
      simp
    refine ⟨.error c.warning, ?_, .inr ⟨hratable, rfl⟩⟩
    unfold Selected.rate
    simp only [Selected.levels_eq hdivisor, hfinite, bind, Except.bind, pure, Except.pure, warning]
  | some numbers =>
    obtain ⟨hlevels, hnumbers⟩ := Levels.finite?_eq_some_iff.1 hfinite
    have hratable : c.Ratable := Levels.complete_iff.2 ⟨numbers, hfinite⟩
    have hrate := Levels.rate?_of_finite hfinite hvalue c.selected.benchmark.direction
    have htells : (c.result numbers).TellsOf c := by
      refine ⟨rfl, rfl, hlevels.symm, rfl, rfl, rfl, ?_,
        (GiveRating.of_floats hvalue hnumbers).rateData_eq _⟩
      rw [result, ← hlevels, hrate]
    refine ⟨.ok (c.result numbers), ?_, .inl ⟨hratable, _, rfl, htells⟩⟩
    unfold Selected.rate
    simp only [Selected.levels_eq hdivisor, hfinite, hrate, bind, Except.bind, pure, Except.pure,
      result]

/-! ## All readings -/

/-- The contender that a reading is. -/
def Selection.contender? (selection : Selection) (reading : Reading) : Option Contender :=
  match reading.value, selection.find? reading.id with
  | some value, some s => some ⟨reading.id, value, s⟩
  | _, _ => none

/-- The contenders, in the order of the readings. -/
def Selection.contenders (selection : Selection) (readings : Readings) : List Contender :=
  readings.entries.filterMap selection.contender?

/-- What a run says of the contenders. -/
structure RatingRun.Accounts (run : RatingRun) (contenders : List Contender) : Prop where
  /-- The results are those of the contenders with complete thresholds, in order. -/
  results : List.Forall₂ BenchmarkResult.TellsOf run.results (contenders.filter (·.Ratable))
  /-- There is a warning for each of the others, in order. -/
  warnings : run.warnings = (contenders.filter (¬ ·.Ratable)).map Contender.warning
  /-- A contender is in one of the two lists, and only there; no other KPI is in any of them. -/
  once : ∀ id, (run.results.map (·.kpiId) ++ run.warnings.map (·.ref)).count id =
    if id ∈ contenders.map (·.id) then 1 else 0
  /-- A KPI has a rating exactly if it has a result, and it is the same one. -/
  ratings : ∀ id rating, run.ratings.lookup id = some rating ↔
    ∃ r ∈ run.results, r.kpiId = id ∧ r.rating = rating

namespace Selection

variable {selection : Selection}

theorem contender?_eq_some_iff {reading : Reading} {c : Contender} :
    selection.contender? reading = some c ↔ reading.id = c.id ∧ reading.value = some c.value ∧
      selection.find? reading.id = some c.selected := by
  unfold contender?
  constructor
  · intro h
    split at h
    · rename_i value s hvalue hfind
      obtain rfl := Option.some.inj h
      exact ⟨rfl, hvalue, hfind⟩
    · cases h
  · rintro ⟨hid, hvalue, hfind⟩
    rw [hvalue, hfind, hid]

theorem rate?_of_none {reading : Reading} (h : selection.contender? reading = none) :
    selection.rate? reading = .ok none := by
  unfold contender? at h
  unfold rate?
  cases hvalue : reading.value with
  | none => rfl
  | some value =>
    cases hfind : selection.find? reading.id with
    | none => rfl
    | some s =>
      rw [hvalue, hfind] at h
      cases h

theorem rate?_of_some {reading : Reading} {c : Contender}
    (hdivisor : ∀ id s, selection.find? id = some s → (s.divisor == 0.0) = false)
    (hsound : reading.Sound) (h : selection.contender? reading = some c) :
    ∃ rated, selection.rate? reading = .ok (some rated) ∧ c.Settles rated := by
  obtain ⟨hid, hvalue, hfind⟩ := contender?_eq_some_iff.1 h
  have hrate : selection.rate? reading = (c.selected.rate c.id c.value).map some := by
    unfold rate?
    rw [hvalue, hfind, hid]
  have hfinite : c.value.isFinite = true := hsound.finite _ hvalue
  obtain ⟨rated, hrated, hsettles⟩ := Contender.exists_settles (hdivisor _ _ hfind) hfinite
  exact ⟨rated, hrate.trans (map_eq_ok_iff.2 ⟨rated, hrated, rfl⟩), hsettles⟩

theorem mapM_rate?_settles {readings : List Reading}
    (hdivisor : ∀ id s, selection.find? id = some s → (s.divisor == 0.0) = false)
    (hsound : ∀ reading ∈ readings, reading.Sound) :
    ∃ outcomes, readings.mapM selection.rate? = .ok outcomes ∧
      List.Forall₂ Contender.Settles (readings.filterMap selection.contender?)
        (outcomes.filterMap id) := by
  induction readings with
  | nil => exact ⟨[], rfl, .nil⟩
  | cons reading readings ih =>
    obtain ⟨hreading, hrest⟩ := List.forall_mem_cons.1 hsound
    obtain ⟨outcomes, houtcomes, hsettles⟩ := ih hrest
    cases hc : selection.contender? reading with
    | none =>
      have hstep := rate?_of_none hc
      refine ⟨none :: outcomes, mapM_eq_ok_iff.2 (.cons hstep (mapM_eq_ok_iff.1 houtcomes)), ?_⟩
      rw [List.filterMap_cons_none hc]
      exact hsettles
    | some c =>
      obtain ⟨rated, hstep, hsettle⟩ := rate?_of_some hdivisor hreading hc
      refine ⟨some rated :: outcomes, mapM_eq_ok_iff.2 (.cons hstep (mapM_eq_ok_iff.1 houtcomes)),
        ?_⟩
      rw [List.filterMap_cons_some hc]
      exact .cons hsettle hsettles

theorem contenders_distinct (selection : Selection) {readings : Readings}
    (h : readings.WellFormed) :
    ((selection.contenders readings).map (·.id)).Nodup := by
  have hids : (readings.entries.map (·.id)).Nodup := .of_map Text.lower h.distinct_ids
  have hsublist : ((selection.contenders readings).map (·.id)).Sublist
      (readings.entries.map (·.id)) := by
    unfold contenders
    -- A reading that is no contender is left out, and any other keeps its id.
    induction readings.entries with
    | nil => exact .slnil
    | cons reading rest ih =>
      rw [List.filterMap_cons]
      split
      · exact ih.cons _
      · rename_i c hc
        rw [List.map_cons, List.map_cons, (contender?_eq_some_iff.1 hc).1]
        exact ih.cons_cons _
  exact hids.sublist hsublist

end Selection

namespace RatingRun

variable {contenders : List Contender} {rated : List Rated}

theorem results_ofRated (h : List.Forall₂ Contender.Settles contenders rated) :
    List.Forall₂ BenchmarkResult.TellsOf (ofRated rated).results
      (contenders.filter (·.Ratable)) := by
  unfold ofRated
  induction h with
  | nil => exact .nil
  | @cons c outcome _ _ hsettle _ ih =>
    rcases hsettle with ⟨hratable, r, rfl, htells⟩ | ⟨hratable, rfl⟩
    · rw [List.filter_cons_of_pos (by simpa using hratable)]
      exact .cons htells ih
    · rw [List.filter_cons_of_neg (by simpa using hratable)]
      exact ih

theorem warnings_ofRated (h : List.Forall₂ Contender.Settles contenders rated) :
    (ofRated rated).warnings = (contenders.filter (¬ ·.Ratable)).map Contender.warning := by
  unfold ofRated
  induction h with
  | nil => rfl
  | @cons c outcome _ _ hsettle _ ih =>
    rcases hsettle with ⟨hratable, r, rfl, -⟩ | ⟨hratable, rfl⟩
    · rw [List.filter_cons_of_neg (by simpa using hratable)]
      exact ih
    · rw [List.filter_cons_of_pos (by simpa using hratable), List.map_cons]
      exact congrArg (_ :: ·) ih

theorem accounts_ofRated (h : List.Forall₂ Contender.Settles contenders rated)
    (hdistinct : (contenders.map (·.id)).Nodup) : (ofRated rated).Accounts contenders := by
  have hresults := results_ofRated h
  have hwarnings := warnings_ofRated h
  have hids : (ofRated rated).results.map (·.kpiId) =
      (contenders.filter (·.Ratable)).map (·.id) := by
    refine List.forall₂_eq_eq_eq ▸ ?_
    rw [List.forall₂_map_left_iff, List.forall₂_map_right_iff]
    exact hresults.imp fun _ _ htells => htells.kpiId
  have hrefs : (ofRated rated).warnings.map (·.ref) =
      (contenders.filter (¬ ·.Ratable)).map (·.id) := by
    rw [hwarnings, List.map_map]
    rfl
  refine ⟨hresults, hwarnings, fun id => ?_, fun id rating => ?_⟩
  · -- Those with complete thresholds and the others are all contenders, whose ids are different.
    have hperm : (contenders.filter (·.Ratable) ++ contenders.filter (¬ ·.Ratable)).Perm
        contenders := by
      simpa using List.filter_append_perm (fun c : Contender => decide c.Ratable) contenders
    rw [hids, hrefs, ← List.map_append, (hperm.map _).count_eq, hdistinct.count]
  · have hkeys : ((ofRated rated).ratings.map Prod.fst).Nodup := by
      have hmap : (ofRated rated).ratings.map Prod.fst =
          (ofRated rated).results.map (·.kpiId) := List.map_map
      rw [hmap, hids]
      exact hdistinct.sublist (List.filter_sublist.map _)
    rw [Assoc.lookup_eq_some_iff_mem hkeys, ratings, List.mem_map]
    simp only [Prod.mk.injEq]

end RatingRun

theorem Selection.divisor_of_find?_build {benchmarks : List Benchmark} {client : Client}
    {settings : Settings} {id : String} {s : Selected}
    (h : (build benchmarks client settings).find? id = some s) :
    s.divisor = settings.divisor client.period := by
  obtain ⟨_, b, _, -, -, rfl, -⟩ := (find?_build_eq_some_iff benchmarks id s).1 h
  rfl

/-- Where the client's period has a divisor other than zero, rating never fails. It accounts for
each KPI that has a figure and a selected benchmark once, in the order of the readings, and for no
other. The KPI is warned about if one of its four thresholds for the period is absent or not finite,
and rated if none is; and each result shows what its rating can be recomputed from. -/
theorem Selection.rateAll_accounts {entries : List (String × Datum)} {ctx : Context}
    (hreadings : Readings.ofEntries entries = .ok ctx.readings)
    (hdivisor : (ctx.settings.divisor ctx.client.period == 0.0) = false)
    (benchmarks : List Benchmark) :
    ∃ run, (build benchmarks ctx.client ctx.settings).rateAll ctx = .ok run ∧
      run.Accounts ((build benchmarks ctx.client ctx.settings).contenders ctx.readings) := by
  have hselected (id : String) (s : Selected)
      (h : (build benchmarks ctx.client ctx.settings).find? id = some s) :
      (s.divisor == 0.0) = false := by
    rw [divisor_of_find?_build h, hdivisor]
  obtain ⟨outcomes, houtcomes, hsettles⟩ :=
    mapM_rate?_settles hselected (Readings.sound_ofEntries hreadings)
  have hdistinct := contenders_distinct (build benchmarks ctx.client ctx.settings)
    (Readings.WellFormed.ofEntries hreadings)
  refine ⟨.ofRated (outcomes.filterMap id), bind_eq_ok_iff.2 ⟨outcomes, houtcomes, rfl⟩, ?_⟩
  exact RatingRun.accounts_ofRated hsettles hdistinct

/-- Values of one quarter: one is absent, and there is no benchmark for another. -/
def quarterValues : List (String × Datum) :=
  [("Revenue", .int 120), ("costs", .text "90"), ("Staff", .null), ("Cash", .int 3)]

/-- Benchmarks of which one is for a whole year and one lacks a threshold. -/
def quarterBenchmarks : List Benchmark :=
  [{ kpiId := "REVENUE", levels := ⟨some 200.0, some 320.0, some 400.0, some 600.0⟩,
      basis := .annual },
    { kpiId := "costs", levels := ⟨some 120.0, some 100.0, none, some 60.0⟩, direction := .lower },
    { kpiId := "staff", levels := ⟨some 1.0, some 2.0, some 5.0, some 9.0⟩ }]

/-- The context of values of one quarter. -/
def quarterContext (readings : Readings) : Context where
  readings := readings
  client := { period := .quarterly }

theorem Selection.rateAll_quarter :
    ∃ readings run, Readings.ofEntries quarterValues = .ok readings ∧
      ((quarterContext readings).settings.divisor .quarterly == 0.0) = false ∧
      (build quarterBenchmarks { period := .quarterly } {}).rateAll (quarterContext readings) =
        .ok run ∧
      run.ratings = [("Revenue", .good)] ∧ run.warnings = [⟨.benchmark, "costs", .notRated⟩] ∧
      run.Accounts ((build quarterBenchmarks { period := .quarterly } {}).contenders readings) := by
  have hshown : ((Readings.ofEntries quarterValues).bind fun readings =>
      ((build quarterBenchmarks { period := .quarterly } {}).rateAll (quarterContext readings)).map
        fun run => (run.ratings, run.warnings)).toOption =
      some ([("Revenue", .good)], [⟨.benchmark, "costs", .notRated⟩]) := by decide +kernel
  have hdivisor : (({} : Settings).divisor .quarterly == 0.0) = false := by decide
  obtain ⟨readings, hreadings⟩ : ∃ readings, Readings.ofEntries quarterValues = .ok readings :=
    exists_eq_ok (by decide)
  obtain ⟨run, hrun, haccounts⟩ :=
    @rateAll_accounts _ (quarterContext readings) hreadings hdivisor quarterBenchmarks
  have hrun' : (build quarterBenchmarks { period := .quarterly } {}).rateAll
      (quarterContext readings) = .ok run := hrun
  rw [hreadings, Except.bind, hrun'] at hshown
  obtain ⟨hratings, hwarnings⟩ := Prod.mk.inj (Option.some.inj hshown)
  exact ⟨readings, run, hreadings, hdivisor, hrun, hratings, hwarnings, haccounts⟩

end Scorecard
