import Scorecard.Proofs.Assoc
import Scorecard.Proofs.Sheet.Load

/-!
# Cells that should hold numbers

A tolerance or a priority that is no number, and a threshold that is none or missing, are told of
in a warning that names the row. The decimals of a KPI are not: whatever stands there and is no
number is passed over as a blank is, so nobody learns of it.
-/

namespace Scorecard

variable {α : Type}

/-! ## Columns of numbers -/

/-- A row has no number in a column although it should: there is something else, or a number is
wanted there in any case. -/
def Row.LacksNumber (row : Row) (wanted : Bool) (column : String) : Prop :=
  row.number? [column] = .ok none ∧ (row.has [column] = .ok true ∨ wanted = true)

/-- The row of some fields is kept in a sheet. -/
def KeepsFields (load : List Datum → Except Fault (Load α)) (fields : List (Datum × Datum)) :
    Prop :=
  ∃ item warnings, load [.record fields] = .ok ⟨[item], warnings⟩

/-- A sheet tells of the numbers that its rows lack: it has a warning for a column, under the id of
a row, if and only if a row with this id is kept and lacks a number in the column. -/
def TellsNumbers (load : List Datum → Except Fault (Load α)) (names : List String) (source : Source)
    (wanted : Bool) (columns : List (String × Cause)) (rows : List Datum) : Prop :=
  ∀ l, load rows = .ok l → ∀ column cause, (column, cause) ∈ columns → ∀ id,
    ⟨source, id, cause⟩ ∈ l.warnings ↔ ∃ fields, .record fields ∈ rows ∧ KeepsFields load fields ∧
      (Row.ofFields 1 fields).text? names = .ok (some id) ∧
      (Row.ofFields 1 fields).LacksNumber wanted column

/-- What the warnings about one kept row say of its numbers. -/
structure NumberReader (names : List String) (source : Source) (wanted : Bool)
    (columns : List (String × Cause)) (read : Row → Except Fault (RowResult α)) : Prop where
  /-- They are not about rows that are dropped. -/
  amends : ∀ column cause, (column, cause) ∈ columns → cause.drops = false
  /-- They name the row, and there is one for each number that the row lacks. -/
  tells : ∀ row item warnings, read row = .ok (.kept item warnings) →
    ∀ column cause, (column, cause) ∈ columns → ∀ id,
      ⟨source, id, cause⟩ ∈ warnings ↔
        row.text? names = .ok (some id) ∧ row.LacksNumber wanted column

/-! ## From rows to sheets -/

theorem mem_warnings_iff {read : Row → Except Fault (RowResult α)} {rows : List Datum} {l : Load α}
    (h : loadRows read rows = .ok l) {w : Warning} :
    w ∈ l.warnings ↔
      ∃ e ∈ rows.zipIdx 1, ∃ result, readRow read e = .ok result ∧ w ∈ result.warnings := by
  obtain ⟨results, hresults, rfl⟩ := loadRows_eq_ok_iff.1 h
  have hmem := fun result => mem_iff_of_mapM_eq_ok (y := result) (mapM_eq_ok_iff.2 hresults)
  rw [Load.ofResults, List.mem_flatMap]
  constructor
  · rintro ⟨result, hresult, hw⟩
    obtain ⟨e, he, hread⟩ := (hmem result).1 hresult
    exact ⟨e, he, result, hread, hw⟩
  · rintro ⟨e, he, result, hread, hw⟩
    exact ⟨result, (hmem result).2 ⟨e, he, hread⟩, hw⟩

theorem keepsFields_iff {read : Row → Except Fault (RowResult α)} {fields : List (Datum × Datum)} :
    KeepsFields (loadRows read) fields ↔
      ∃ item warnings, readRow read (.record fields, 1) = .ok (.kept item warnings) := by
  constructor
  · rintro ⟨item, warnings, hload⟩
    obtain ⟨result, hread, hresult⟩ := loadRows_singleton.1 hload
    cases result with
    | kept item' warnings' => exact ⟨item', warnings', hread⟩
    | dropped w => cases hresult
  · rintro ⟨item, warnings, hread⟩
    refine ⟨item, warnings, loadRows_singleton.2 ⟨_, hread, ?_⟩⟩
    rw [Load.ofResults, List.flatMap_singleton]
    rfl

section Reader

variable {names : List String} {source : Source} {cause : Cause} {wanted : Bool}
  {columns : List (String × Cause)} {read : Row → Except Fault (RowResult α)}

/-- A row that is kept is kept with the same warnings wherever it stands. -/
theorem RowReader.kept_move (h : RowReader names source cause read) {d : Datum} {p : Nat} {item : α}
    {warnings : List Warning} (hread : readRow read (d, p) = .ok (.kept item warnings)) (q : Nat) :
    readRow read (d, q) = .ok (.kept item warnings) := by
  obtain ⟨result, hresult, hsame | ⟨row, row', -, -, hdropped, -⟩⟩ := h.readRow_move hread q
  · rw [hresult, hsame]
  · cases hdropped

/-- Readers that tell of the numbers of each row tell of those of a sheet. -/
theorem NumberReader.tellsNumbers (hnumbers : NumberReader names source wanted columns read)
    (h : RowReader names source cause read) (rows : List Datum) :
    TellsNumbers (loadRows read) names source wanted columns rows := by
  intro l hl column cause' hcolumn id
  rw [mem_warnings_iff hl]
  constructor
  · rintro ⟨⟨d, p⟩, he, result, hread, hw⟩
    cases result with
    | dropped w' =>
      -- A row that is dropped is told of for another cause.
      obtain ⟨row, -, hrow⟩ := bind_eq_ok_iff.1 hread
      have hdrops := h.dropped row w' hrow
      rw [← List.mem_singleton.1 hw, hnumbers.amends column cause' hcolumn] at hdrops
      cases hdrops
    | kept item warnings =>
      have halone := h.kept_move hread 1
      obtain ⟨_, hrow, hkept⟩ := bind_eq_ok_iff.1 halone
      obtain ⟨fields, rfl, -, rfl⟩ := Row.ofDatum_eq_ok_iff.1 hrow
      have htells := hnumbers.tells _ item warnings hkept column cause' hcolumn id
      obtain ⟨hid, hlacks⟩ := htells.1 hw
      refine ⟨fields, ?_, keepsFields_iff.2 ⟨item, warnings, halone⟩, hid, hlacks⟩
      exact List.fst_mem_of_mem_zipIdx he
  · rintro ⟨fields, hfields, hkeeps, hid, hlacks⟩
    obtain ⟨item, warnings, halone⟩ := keepsFields_iff.1 hkeeps
    obtain ⟨i, hi, hget⟩ := List.mem_iff_getElem.1 hfields
    have he : (Datum.record fields, 1 + i) ∈ rows.zipIdx 1 := by
      rw [List.mk_mem_zipIdx_iff_le_and_getElem?_sub]
      refine ⟨Nat.le_add_right 1 i, ?_⟩
      rw [Nat.add_sub_cancel_left, List.getElem?_eq_getElem hi, hget]
    obtain ⟨_, hrow, hkept⟩ := bind_eq_ok_iff.1 halone
    obtain ⟨_, hrecord, -, rfl⟩ := Row.ofDatum_eq_ok_iff.1 hrow
    obtain rfl := Datum.record.inj hrecord
    have hw := (hnumbers.tells _ item warnings hkept column cause' hcolumn id).2 ⟨hid, hlacks⟩
    exact ⟨_, he, _, h.kept_move halone (1 + i), hw⟩

end Reader

/-! ## The four sheets -/

/-- A row lacks a number that is not wanted if its cell is there and holds none. -/
theorem Row.lacksNumber_iff {row : Row} {column : String} {number : Option Float} {has : Bool}
    (hnumber : row.number? [column] = .ok number) (hhas : row.has [column] = .ok has) :
    row.LacksNumber false column ↔ (number.isNone && has) = true := by
  rw [LacksNumber, hnumber, hhas]
  cases number <;> simp

theorem ValidationRule.numberReader (defaultTolerance : Float) :
    NumberReader ["id", "rule_id"] .validation false [("tolerance", .unreadableTolerance)]
      (ValidationRule.ofRow defaultTolerance) where
  amends := by simp [Cause.drops]
  tells := by
    intro row item warnings h column cause hcolumn id
    obtain ⟨rfl, rfl⟩ := Prod.mk.inj (List.mem_singleton.1 hcolumn)
    rcases of_result h with ⟨-, h⟩ | ⟨id', word, number, has, rule, hid, hnumber, hhas, h⟩
    · cases h
    · obtain ⟨-, rfl⟩ := RowResult.kept.inj h
      have hother : (⟨.validation, id, .unreadableTolerance⟩ : Warning) ∉
          if (Severity.ofWord? word).isSome then []
          else [⟨.validation, id', .unknownSeverity word⟩] := by
        split <;> simp
      rw [List.mem_append, or_iff_right hother, hid, Row.lacksNumber_iff hnumber hhas]
      by_cases hlacks : (number.isNone && has) = true
      · simp [hlacks, eq_comm]
      · simp [hlacks]

/-- The thresholds of a row are the numbers in the columns of the levels. -/
theorem Row.number?_of_levels {row : Row} {levels : Levels (Option Float)}
    (h : row.levels = .ok levels) :
    List.Forall₂ (fun level threshold => row.number? [level] = .ok threshold)
      Levels.names.toList levels.toList := by
  simp only [Row.levels, Levels.mapM, bind_eq_ok_iff] at h
  obtain ⟨poor, hpoor, average, haverage, good, hgood, excellent, hexcellent, h⟩ := h
  obtain rfl := Except.ok.inj h
  exact .cons hpoor (.cons haverage (.cons hgood (.cons hexcellent .nil)))

/-- The levels without a threshold are those whose columns hold no number. -/
theorem Row.mem_absent_levels_iff {row : Row} {levels : Levels (Option Float)}
    (h : row.levels = .ok levels) {level : String} (hlevel : level ∈ Levels.names.toList) :
    level ∈ levels.absent ↔ row.number? [level] = .ok none := by
  have hread := number?_of_levels h
  constructor
  · intro hmem
    obtain ⟨⟨name, threshold⟩, hzip, habsent⟩ := List.mem_filterMap.1 hmem
    have hname := List.forall₂_zip hread hzip
    cases threshold with
    | none =>
      obtain rfl := Option.some.inj habsent
      exact hname
    | some x => cases habsent
  · intro hnone
    obtain ⟨i, hi, rfl⟩ := List.mem_iff_getElem.1 hlevel
    have hthreshold := hread.get hi (hread.length_eq ▸ hi)
    refine List.mem_filterMap.2 ⟨(_, none), ?_, rfl⟩
    rw [List.mem_iff_getElem?]
    refine ⟨i, List.getElem?_zip_eq_some.2 ⟨List.getElem?_eq_getElem hi, ?_⟩⟩
    rw [List.get_eq_getElem, hnone] at hthreshold
    rw [Except.ok.inj hthreshold]
    exact List.getElem?_eq_getElem _

theorem Benchmark.numberReader :
    NumberReader ["kpi_id", "kpi"] .benchmark true
      (Levels.names.toList.map fun level => (level, .noThreshold level)) Benchmark.ofRow where
  amends := by
    intro column cause hcolumn
    obtain ⟨level, -, hsame⟩ := List.mem_map.1 hcolumn
    obtain ⟨-, rfl⟩ := Prod.mk.inj hsame
    rfl
  tells := by
    intro row item warnings h column cause hcolumn id
    obtain ⟨level, hlevel, hsame⟩ := List.mem_map.1 hcolumn
    obtain ⟨rfl, rfl⟩ := Prod.mk.inj hsame
    rcases of_result h with ⟨-, h⟩ | ⟨id', hid, ⟨word, h | h⟩ | ⟨levels, rule, hlevels, h⟩⟩
    · cases h
    · cases h
    · cases h
    · obtain ⟨-, rfl⟩ := RowResult.kept.inj h
      have hlacks : row.LacksNumber true level ↔ row.number? [level] = .ok none :=
        and_iff_left (.inr rfl)
      rw [hid, hlacks, ← Row.mem_absent_levels_iff hlevels hlevel, List.mem_map]
      constructor
      · rintro ⟨level', hlevel', hsame⟩
        cases hsame
        exact ⟨rfl, hlevel'⟩
      · rintro ⟨hsame, hmem⟩
        obtain rfl := Option.some.inj (Except.ok.inj hsame)
        exact ⟨level, hmem, rfl⟩

theorem InsightRule.numberReader :
    NumberReader ["id", "rule_id"] .insight false [("priority", .unreadablePriority)]
      InsightRule.ofRow where
  amends := by simp [Cause.drops]
  tells := by
    intro row item warnings h column cause hcolumn id
    obtain ⟨rfl, rfl⟩ := Prod.mk.inj (List.mem_singleton.1 hcolumn)
    rcases of_result h with
      ⟨-, h⟩ | ⟨id', hid, ⟨cause, -, -, h⟩ | ⟨_, number, has, rule, -, -, -, hnumber, hhas, h⟩⟩
    · cases h
    · cases h
    · obtain ⟨-, rfl⟩ := RowResult.kept.inj h
      rw [hid, Row.lacksNumber_iff hnumber hhas]
      by_cases hlacks : (number.isNone && has) = true
      · simp [hlacks, eq_comm]
      · simp [hlacks]

/-! ### KPIs -/

namespace Row

/-- A row without one of its columns. -/
def without (row : Row) (column : String) : Row :=
  { row with cells := row.cells.filter fun e => e.1 ≠ columnKey column }

theorem datum_without (row : Row) (column name : String) :
    (row.without column).datum name =
      if columnKey name = columnKey column then .null else row.datum name := by
  rw [datum, without, Assoc.lookup_filter_ne]
  split <;> rfl

theorem text?_without (row : Row) {column : String} {names : List String}
    (h : ∀ name ∈ names, columnKey name ≠ columnKey column) :
    (row.without column).text? names = row.text? names := by
  induction names with
  | nil => rfl
  | cons name names ih =>
    obtain ⟨hname, hnames⟩ := List.forall_mem_cons.1 h
    rw [text?, text?, datum_without, if_neg hname, ih hnames]

theorem number?_without (row : Row) (column : String) :
    (row.without column).number? [column] = .ok none := by
  rw [number?, text?, datum_without, if_pos rfl]
  rfl

end Row

/-- A KPI whose decimals are no number is read as if the column were not there. -/
theorem Kpi.ofRow_without_decimals {row : Row} (h : row.number? ["decimals"] = .ok none) :
    Kpi.ofRow (row.without "decimals") = Kpi.ofRow row := by
  have hother : ∀ names ∈ [["kpi_id", "id"], ["format", "type"], ["name", "kpi_name"]],
      ∀ name ∈ names, Row.columnKey name ≠ Row.columnKey "decimals" := by
    decide
  have hid := Row.text?_without row (hother ["kpi_id", "id"] (by simp))
  have hformat := Row.text?_without row (hother ["format", "type"] (by simp))
  have hname := Row.text?_without row (hother ["name", "kpi_name"] (by simp))
  rw [Kpi.ofRow, Kpi.ofRow, Row.text, Row.text, Row.text, Row.text, hid, hformat, hname, h,
    Row.number?_without]
  rfl

/-- Sheets of validation rules and of insight rules tell, under the id of a row, of a tolerance and
of a priority that stands there and is not a finite number; sheets of benchmarks tell of every
threshold that is missing or not a finite number. They do so for the rows that are kept, and for no
others. In a sheet of KPIs, decimals that are not a finite number are as good as none. -/
theorem configuration_tells_numbers (rows : List Datum) (tolerance : Float) :
    TellsNumbers (loadValidationRules tolerance) ["id", "rule_id"] .validation false
      [("tolerance", .unreadableTolerance)] rows ∧
    TellsNumbers loadBenchmarks ["kpi_id", "kpi"] .benchmark true
      (Levels.names.toList.map fun level => (level, .noThreshold level)) rows ∧
    TellsNumbers loadInsightRules ["id", "rule_id"] .insight false
      [("priority", .unreadablePriority)] rows ∧
    ∀ row : Row, row.number? ["decimals"] = .ok none →
      Kpi.ofRow (row.without "decimals") = Kpi.ofRow row := by
  refine ⟨?_, ?_, ?_, fun row => Kpi.ofRow_without_decimals⟩
  · have hrows := ValidationRule.rowReader tolerance
    exact (ValidationRule.numberReader tolerance).tellsNumbers hrows rows
  · exact Benchmark.numberReader.tellsNumbers Benchmark.rowReader rows
  · exact InsightRule.numberReader.tellsNumbers InsightRule.rowReader rows

/-- A KPI whose decimals are written as a word. -/
def wordyDecimals : List (Datum × Datum) :=
  [(.text "kpi_id", .text "margin"), (.text "decimals", .text "two")]

/-- A sheet of KPIs does not tell of all decimals that are not a finite number. -/
theorem not_loadKpis_tells_decimals :
    ¬ ∀ (rows : List Datum) (l : Load Kpi), loadKpis rows = .ok l →
      ∀ fields, .record fields ∈ rows → KeepsFields loadKpis fields →
        (Row.ofFields 1 fields).LacksNumber false "decimals" →
          ∀ id, (Row.ofFields 1 fields).text? ["kpi_id", "id"] = .ok (some id) →
            ∃ w ∈ l.warnings, w.ref = id := by
  intro h
  have hload : loadKpis [.record wordyDecimals] = .ok ⟨[{ id := "margin" }], []⟩ := rfl
  have hlacks : (Row.ofFields 1 wordyDecimals).LacksNumber false "decimals" :=
    ⟨by decide, .inl (by decide)⟩
  obtain ⟨w, hw, -⟩ := h _ _ hload wordyDecimals List.mem_cons_self ⟨_, _, hload⟩ hlacks "margin"
    (by decide)
  cases hw

end Scorecard
