import Scorecard.Proofs.Sheet.Row

/-!
# Sheets row by row

Loading a sheet is loading its rows one by one: what comes of a row depends on that row alone, and
the items and warnings of the sheet are those of its rows in their order. No row is lost without a
word: it gives one item, or else one warning that says it was dropped. Only a row without an id is
named by its place in the sheet.
-/

namespace Scorecard

variable {α : Type}

/-! ## Rows in a sheet -/

/-- A row is a mapping, and the names of its columns can be written. -/
theorem Row.ofDatum_eq_ok_iff {position : Nat} {d : Datum} {row : Row} :
    ofDatum position d = .ok row ↔ ∃ fields, d = .record fields ∧
      (∀ f ∈ fields, f.1.hasText = true) ∧ ofFields position fields = row := by
  constructor
  · intro h
    cases d with
    | record fields =>
      rw [ofDatum] at h
      split at h
      · rename_i hnames
        exact ⟨fields, rfl, List.all_eq_true.1 hnames, Except.ok.inj h⟩
      · cases h
    | _ => cases h
  · rintro ⟨fields, rfl, hnames, rfl⟩
    exact if_pos (List.all_eq_true.2 hnames)

/-- Reads a row at its place in a sheet. -/
def readRow (read : Row → Except Fault α) (d : Datum × Nat) : Except Fault α :=
  Row.ofDatum d.2 d.1 >>= read

theorem readRows_eq_mapM (read : Row → Except Fault α) (position : Nat) (rows : List Datum) :
    readRows read position rows = (rows.zipIdx position).mapM (readRow read) := by
  induction rows generalizing position with
  | nil => rfl
  | cons d rows ih =>
    rw [readRows, List.zipIdx_cons, List.mapM_cons, readRow, ← ih]
    cases Row.ofDatum position d <;> rfl

theorem loadRows_eq_ok_iff {read : Row → Except Fault (RowResult α)} {rows : List Datum}
    {l : Load α} : loadRows read rows = .ok l ↔ ∃ results,
      List.Forall₂ (fun d result => readRow read d = .ok result) (rows.zipIdx 1) results ∧
        Load.ofResults results = l := by
  rw [loadRows, map_eq_ok_iff, readRows_eq_mapM]
  simp only [mapM_eq_ok_iff]

/-- A row that is loaded alone is the first of its sheet. -/
theorem loadRows_singleton {read : Row → Except Fault (RowResult α)} {d : Datum} {l : Load α} :
    loadRows read [d] = .ok l ↔
      ∃ result, readRow read (d, 1) = .ok result ∧ Load.ofResults [result] = l := by
  rw [loadRows_eq_ok_iff]
  constructor
  · rintro ⟨results, hresults, rfl⟩
    obtain ⟨result, rest, hresult, hrest, rfl⟩ := List.forall₂_cons_left_iff.1 hresults
    obtain rfl := List.forall₂_nil_left_iff.1 hrest
    exact ⟨result, hresult, rfl⟩
  · rintro ⟨result, hresult, rfl⟩
    exact ⟨[result], .cons hresult .nil, rfl⟩

theorem items_ofResults (results : List (RowResult α)) :
    (Load.ofResults results).items =
      results.flatMap fun result => (Load.ofResults [result]).items := by
  rw [Load.ofResults, List.filterMap_eq_flatMap_toList]
  refine List.flatMap_congr fun result _ => ?_
  cases result <;> rfl

theorem warnings_ofResults (results : List (RowResult α)) :
    (Load.ofResults results).warnings =
      results.flatMap fun result => (Load.ofResults [result]).warnings := by
  refine List.flatMap_congr fun result _ => ?_
  rw [Load.ofResults, List.flatMap_singleton]

/-! ## One row -/

/-- What can come of one row: an item, with warnings that do not say the row was dropped, or nothing
but a warning that says so. -/
inductive Load.OfOneRow : Load α → Prop
  /-- It was kept. -/
  | kept (item : α) {warnings : List Warning} (h : ∀ w ∈ warnings, ¬ w.SaysDropped) :
    OfOneRow ⟨[item], warnings⟩
  /-- It was dropped. -/
  | dropped {w : Warning} (h : w.SaysDropped) : OfOneRow ⟨[], [w]⟩

/-- What comes of a row at a place in a sheet and what comes of it alone. A warning that names the
row by its place names another place; all else is the same. -/
inductive Load.AtPlace (position : Nat) : Load α → Load α → Prop
  /-- The place does not show. -/
  | same (l : Load α) : AtPlace position l l
  /-- The row is named by its place. -/
  | unnamed (source : Source) (cause : Cause) :
    AtPlace position ⟨[], [⟨source, "row 1", cause⟩]⟩
      ⟨[], [⟨source, "row " ++ position.repr, cause⟩]⟩

/-- A sheet is loaded row by row: it can be loaded if each of its rows can, and what comes of it is
what comes of its rows, in their order. -/
def LoadsRowByRow (load : List Datum → Except Fault (Load α)) : Prop :=
  ∀ rows : List Datum,
    ((∃ l, load rows = .ok l) ↔ ∀ d ∈ rows, ∃ alone, load [d] = .ok alone) ∧
    ∀ l, load rows = .ok l → ∃ ones : List (Load α),
      List.Forall₂ (fun (d : Datum × Nat) one => one.OfOneRow ∧
        ∃ alone, load [d.1] = .ok alone ∧ alone.AtPlace d.2 one) (rows.zipIdx 1) ones ∧
      l.items = ones.flatMap (·.items) ∧ l.warnings = ones.flatMap (·.warnings)

section Reader

variable {names : List String} {source : Source} {cause : Cause}
  {read : Row → Except Fault (RowResult α)}

theorem RowReader.ofOneRow (h : RowReader names source cause read) {row : Row}
    {result : RowResult α} (hread : read row = .ok result) :
    (Load.ofResults [result]).OfOneRow := by
  cases result with
  | kept item warnings =>
    have hwarnings := fun w hw => Warning.not_saysDropped (h.kept row item warnings hread w hw)
    rw [Load.ofResults, List.flatMap_singleton]
    exact .kept item hwarnings
  | dropped w => exact .dropped (Warning.saysDropped_of_drops (h.dropped row w hread))

/-- What comes of a row at one place comes of it at any other. -/
theorem RowReader.readRow_move (h : RowReader names source cause read) {d : Datum} {p : Nat}
    {result : RowResult α} (hread : readRow read (d, p) = .ok result) (q : Nat) :
    ∃ result', readRow read (d, q) = .ok result' ∧
      (result = result' ∨ ∃ row row' : Row, row.position = p ∧ row'.position = q ∧
        result = .dropped ⟨source, row.ref, cause⟩ ∧
        result' = .dropped ⟨source, row'.ref, cause⟩) := by
  obtain ⟨_, hrow, hread⟩ := bind_eq_ok_iff.1 hread
  obtain ⟨fields, rfl, hnames, rfl⟩ := Row.ofDatum_eq_ok_iff.1 hrow
  have hrow' : Row.ofDatum q (.record fields) = .ok (.ofFields q fields) :=
    Row.ofDatum_eq_ok_iff.2 ⟨fields, rfl, hnames, rfl⟩
  -- The place of a row does not decide about its cells.
  have hcells : (Row.ofFields p fields).SameCells (Row.ofFields q fields) :=
    Row.sameCells_of_cells rfl
  by_cases hid : (Row.ofFields p fields).text? names = .ok none
  · rw [h.unnamed _ hid] at hread
    obtain rfl := Except.ok.inj hread
    have hread' := h.unnamed _ (hcells.text? ▸ hid)
    exact ⟨_, bind_eq_ok_iff.2 ⟨_, hrow', hread'⟩, .inr ⟨_, _, rfl, rfl, rfl, rfl⟩⟩
  · have hread' := h.named _ _ hcells hid result hread
    exact ⟨result, bind_eq_ok_iff.2 ⟨_, hrow', hread'⟩, .inl rfl⟩

theorem RowReader.atPlace (h : RowReader names source cause read) {d : Datum} {p : Nat}
    {result : RowResult α} (hread : readRow read (d, p) = .ok result) :
    ∃ alone, loadRows read [d] = .ok alone ∧ alone.AtPlace p (Load.ofResults [result]) := by
  obtain ⟨result', hread', hsame⟩ := h.readRow_move hread 1
  refine ⟨Load.ofResults [result'], loadRows_singleton.2 ⟨result', hread', rfl⟩, ?_⟩
  rcases hsame with rfl | ⟨row, row', hrow, hrow', rfl, rfl⟩
  · exact .same _
  · rw [Row.ref, Row.ref, hrow, hrow']
    exact .unnamed source cause

theorem RowReader.exists_load_iff (h : RowReader names source cause read) {rows : List Datum} :
    (∃ l, loadRows read rows = .ok l) ↔ ∀ d ∈ rows, ∃ alone, loadRows read [d] = .ok alone := by
  have hrows : (rows.zipIdx 1).map Prod.fst = rows := List.zipIdx_map_fst 1 rows
  constructor
  · rintro ⟨l, hl⟩ d hd
    obtain ⟨results, hresults, -⟩ := loadRows_eq_ok_iff.1 hl
    rw [← hrows] at hd
    obtain ⟨e, he, rfl⟩ := List.mem_map.1 hd
    obtain ⟨result, hread⟩ := exists_of_mapM_eq_ok (mapM_eq_ok_iff.2 hresults) he
    obtain ⟨alone, halone, -⟩ := h.atPlace hread
    exact ⟨alone, halone⟩
  · intro halone
    have hread : ∀ e ∈ rows.zipIdx 1, ∃ result, readRow read e = .ok result := by
      intro e he
      obtain ⟨l, hl⟩ := halone e.1 (hrows ▸ List.mem_map_of_mem he)
      obtain ⟨result, hread, -⟩ := loadRows_singleton.1 hl
      obtain ⟨result', hread', -⟩ := h.readRow_move hread e.2
      exact ⟨result', hread'⟩
    obtain ⟨results, hresults⟩ := exists_mapM_eq_ok hread
    exact ⟨_, loadRows_eq_ok_iff.2 ⟨results, mapM_eq_ok_iff.1 hresults, rfl⟩⟩

/-- Readers of rows load sheets row by row. -/
theorem RowReader.loadsRowByRow (h : RowReader names source cause read) :
    LoadsRowByRow (loadRows read) := by
  intro rows
  refine ⟨h.exists_load_iff, fun l hl => ?_⟩
  obtain ⟨results, hresults, rfl⟩ := loadRows_eq_ok_iff.1 hl
  refine ⟨results.map fun result => Load.ofResults [result], ?_, ?_, ?_⟩
  · rw [List.forall₂_map_right_iff]
    refine hresults.imp fun d result hread => ⟨?_, h.atPlace hread⟩
    obtain ⟨row, -, hread⟩ := bind_eq_ok_iff.1 hread
    exact h.ofOneRow hread
  · rw [List.flatMap_map]
    exact items_ofResults results
  · rw [List.flatMap_map]
    exact warnings_ofResults results

end Reader

/-- All sheets of the configuration are loaded row by row. -/
theorem configuration_loads_row_by_row :
    LoadsRowByRow loadKpis ∧ (∀ tolerance, LoadsRowByRow (loadValidationRules tolerance)) ∧
      LoadsRowByRow loadBenchmarks ∧ LoadsRowByRow loadInsightRules :=
  ⟨Kpi.rowReader.loadsRowByRow, fun tolerance => (ValidationRule.rowReader tolerance).loadsRowByRow,
    Benchmark.rowReader.loadsRowByRow, InsightRule.rowReader.loadsRowByRow⟩

end Scorecard
