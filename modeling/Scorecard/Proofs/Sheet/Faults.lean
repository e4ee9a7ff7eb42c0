import Scorecard.Proofs.Sheet.Load
import Scorecard.Proofs.Sheet.Numbered
import Scorecard.Proofs.Sheet.Unwritable

/-!
# What stops the loading of a sheet

A sheet stops at a row that is not a mapping, or that has a name of a column or a cell with a whole
number too long to be written. Only the cells that are read count: what drops a row is read first.
Sheets of KPIs, validation rules and benchmarks stop at nothing else. A sheet of insight rules also
stops at a numbered column whose digits are too many or not all decimal, if its row is to be kept,
gives no recommendations otherwise, and has a cell in the column.
-/

namespace Scorecard

open Text (lower)

variable {α : Type}

/-! ## Sheets -/

/-- A sheet is read if no row in it has a fault, and otherwise the reading stops with the fault of
the first row that has one. -/
def StopsAt (load : List Datum → Except Fault α) (fault : Datum → Fault → Prop)
    (rows : List Datum) : Prop :=
  ((∃ a, load rows = .ok a) ↔ ∀ d ∈ rows, ∀ f, ¬ fault d f) ∧
    ∀ f, load rows = .error f ↔ FirstFault fault rows f

/-- Where a sheet stops is told by what it fails with. -/
theorem stopsAt_of_error {load : List Datum → Except Fault α} {fault : Datum → Fault → Prop}
    {rows : List Datum} (h : ∀ f, load rows = .error f ↔ FirstFault fault rows f) :
    StopsAt load fault rows := by
  refine ⟨?_, h⟩
  rw [exists_ok_iff_forall_ne_error]
  simp only [ne_eq, h]
  rw [← not_exists, exists_firstFault_iff]
  simp only [not_exists, not_and]

/-- What is wrong with a datum that is not a row. -/
inductive NotRow : Datum → Fault → Prop
  /-- It is not a mapping. -/
  | notMapping {d : Datum} (h : ∀ fields, d ≠ .record fields) : NotRow d .rowNotMapping
  /-- The name of one of its columns cannot be written. -/
  | unwritableName {fields : List (Datum × Datum)} (h : ∃ f ∈ fields, f.1.hasText = false) :
    NotRow (.record fields) .numberTooLong

theorem ofDatum_eq_error_iff {position : Nat} {d : Datum} {f : Fault} :
    Row.ofDatum position d = .error f ↔ NotRow d f := by
  constructor
  · intro h
    cases d with
    | record fields =>
      rw [Row.ofDatum] at h
      split at h
      · cases h
      · rename_i hnames
        cases h
        exact .unwritableName (by simpa using hnames)
    | _ =>
      cases h
      exact .notMapping (by simp)
  · intro h
    cases h with
    | notMapping hd =>
      cases d with
      | record fields => exact absurd rfl (hd fields)
      | _ => rfl
    | unwritableName hnames =>
      refine if_neg ?_
      simpa using hnames

/-- The rows of a sheet stop it at what is no row and at what their reader fails with at the first
place, if the place of a row does not decide about its faults. -/
theorem readRows_eq_error_iff {read : Row → Except Fault α} {fault : Datum → Fault → Prop}
    (hmove : ∀ row row' : Row, row.cells = row'.cells → ∀ f, read row = .error f →
      read row' = .error f)
    (hfault : ∀ d f, fault d f ↔
      NotRow d f ∨ ∃ row, Row.ofDatum 1 d = .ok row ∧ read row = .error f)
    (rows : List Datum) (f : Fault) :
    readRows read 1 rows = .error f ↔ FirstFault fault rows f := by
  have hread (d : Datum) (position : Nat) (f : Fault) :
      readRow read (d, position) = .error f ↔ fault d f := by
    rw [readRow, bind_eq_error_iff, ofDatum_eq_error_iff, hfault]
    refine or_congr_right ⟨?_, ?_⟩
    · rintro ⟨row, hrow, hread⟩
      obtain ⟨fields, rfl, hnames, rfl⟩ := Row.ofDatum_eq_ok_iff.1 hrow
      have hfirst := hmove (.ofFields position fields) (.ofFields 1 fields) rfl f hread
      exact ⟨_, Row.ofDatum_eq_ok_iff.2 ⟨fields, rfl, hnames, rfl⟩, hfirst⟩
    · rintro ⟨row, hrow, hread⟩
      obtain ⟨fields, rfl, hnames, rfl⟩ := Row.ofDatum_eq_ok_iff.1 hrow
      have hthere := hmove (.ofFields 1 fields) (.ofFields position fields) rfl f hread
      exact ⟨_, Row.ofDatum_eq_ok_iff.2 ⟨fields, rfl, hnames, rfl⟩, hthere⟩
  rw [readRows_eq_mapM, mapM_eq_error_iff fun d f => hread d.1 d.2 f, ← firstFault_map_iff,
    List.zipIdx_map_fst]

/-- What stops a sheet at a datum: it is not a row, or columns that are read of this row cannot be
written. -/
inductive RowFault (reads : Row → List String → Prop) : Datum → Fault → Prop
  /-- It is not a row. -/
  | notRow {d : Datum} {f : Fault} (h : NotRow d f) : RowFault reads d f
  /-- Columns that are read cannot be written. -/
  | unwritable {d : Datum} {row : Row} {names : List String} (hrow : Row.ofDatum 1 d = .ok row)
    (hreads : reads row names) (h : row.Unwritable names) : RowFault reads d .numberTooLong

/-- Where a reader stops at nothing but columns that cannot be written. -/
theorem rowFault_iff {read : Row → Except Fault α} {reads : Row → List String → Prop}
    (hfails : ∀ row, FailsIf (read row) (∃ names, reads row names ∧ row.Unwritable names))
    (d : Datum) (f : Fault) : RowFault reads d f ↔
      NotRow d f ∨ ∃ row, Row.ofDatum 1 d = .ok row ∧ read row = .error f := by
  constructor
  · intro hfault
    cases hfault with
    | notRow hnot => exact .inl hnot
    | unwritable hrow hreads hunwritable =>
      exact .inr ⟨_, hrow, (hfails _ _).2 ⟨⟨_, hreads, hunwritable⟩, rfl⟩⟩
  · rintro (hnot | ⟨row, hrow, hread⟩)
    · exact .notRow hnot
    · obtain ⟨⟨names, hreads, hunwritable⟩, rfl⟩ := (hfails row f).1 hread
      exact .unwritable hrow hreads hunwritable

/-- The columns that are read of a row, each with its other names, where nothing but a missing id
drops it. -/
inductive ReadsNamed (idNames : List String) (others : List (List String)) (row : Row) :
    List String → Prop
  /-- The id. -/
  | id : ReadsNamed idNames others row idNames
  /-- All others, if there is an id. -/
  | cell {names : List String} (hid : row.Fills idNames) (h : names ∈ others) :
    ReadsNamed idNames others row names

/-- What is read with an id fails if the id or one of the other columns cannot be written. -/
theorem Row.failsIf_named {row : Row} {idNames : List String} {others : List (List String)}
    {read : Option String → Except Fault α} (hunnamed : ∃ a, read none = .ok a)
    (hnamed : ∀ id, FailsIf (read (some id)) (∃ names ∈ others, row.Unwritable names)) :
    FailsIf (row.text? idNames >>= read)
      (∃ names, ReadsNamed idNames others row names ∧ row.Unwritable names) := by
  have hread : FailsIf (row.text? idNames >>= read) (row.Unwritable idNames ∨
      row.Fills idNames ∧ ∃ names ∈ others, row.Unwritable names) := by
    refine (row.failsIf_text? _).gate fun id hid => ?_
    cases id with
    | none => exact .inr ⟨by simp [Row.Fills, hid], hunnamed⟩
    | some id => exact .inl ⟨⟨id, hid⟩, hnamed id⟩
  refine hread.congr ⟨?_, ?_⟩
  · rintro (h | ⟨hid, names, hnames, h⟩)
    · exact ⟨_, .id, h⟩
    · exact ⟨names, .cell hid hnames, h⟩
  · rintro ⟨names, hreads, h⟩
    cases hreads with
    | id => exact .inl h
    | cell hid hnames => exact .inr ⟨hid, names, hnames, h⟩

section Reader

variable {names : List String} {source : Source} {cause : Cause}
  {read : Row → Except Fault (RowResult α)}

/-- Whether a row can be read does not depend on its place. -/
theorem RowReader.exists_ok_of_cells (h : RowReader names source cause read) {row row' : Row}
    (hcells : row.cells = row'.cells) (hread : ∃ result, read row = .ok result) :
    ∃ result, read row' = .ok result := by
  obtain ⟨result, hread⟩ := hread
  have hsame : row.SameCells row' := Row.sameCells_of_cells hcells
  by_cases hid : row.text? names = .ok none
  · exact ⟨_, h.unnamed row' (hsame.text? ▸ hid)⟩
  · exact ⟨result, h.named row row' hsame hid result hread⟩

/-- A reader that stops at nothing but columns that cannot be written. -/
theorem RowReader.stopsAt (h : RowReader names source cause read)
    {reads : Row → List String → Prop}
    (hfails : ∀ row, FailsIf (read row) (∃ names, reads row names ∧ row.Unwritable names))
    (rows : List Datum) : StopsAt (loadRows read) (RowFault reads) rows := by
  refine stopsAt_of_error fun f => ?_
  rw [loadRows, map_eq_error_iff]
  refine readRows_eq_error_iff (fun row row' hcells f hread => ?_) (rowFault_iff hfails) rows f
  obtain ⟨-, rfl⟩ := (hfails row f).1 hread
  cases hread' : read row' with
  | error f' =>
    obtain ⟨-, rfl⟩ := (hfails row' f').1 hread'
    rfl
  | ok result =>
    obtain ⟨result', hok⟩ := h.exists_ok_of_cells hcells.symm ⟨result, hread'⟩
    rw [hok] at hread
    cases hread

end Reader

/-! ## KPIs -/

namespace Kpi

/-- The columns that are read of a row of KPIs. -/
def Reads : Row → List String → Prop :=
  ReadsNamed ["kpi_id", "id"] [["format", "type"], ["decimals"], ["name", "kpi_name"]]

theorem failsIf_ofRow (row : Row) :
    FailsIf (ofRow row) (∃ names, Reads row names ∧ row.Unwritable names) := by
  refine Row.failsIf_named ⟨_, rfl⟩ fun id => ?_
  refine FailsIf.congr ((row.failsIf_text _ _).bind fun _ _ =>
    (row.failsIf_number? _).bind fun _ _ => (row.failsIf_text _ _).bind fun _ _ => .ok _) ?_
  simp

end Kpi

/-! ## Validation rules -/

namespace ValidationRule

/-- The columns that are read of a row of validation rules. -/
def Reads : Row → List String → Prop :=
  ReadsNamed ["id", "rule_id"] [["severity"], ["tolerance"], ["name"], ["type"], ["formula"],
    ["message"], ["affected_kpis"], ["active"]]

theorem failsIf_ofRow (defaultTolerance : Float) (row : Row) :
    FailsIf (ofRow defaultTolerance row) (∃ names, Reads row names ∧ row.Unwritable names) := by
  refine Row.failsIf_named ⟨_, rfl⟩ fun id => ?_
  refine FailsIf.congr ((row.failsIf_text _ _).bind fun _ _ =>
    (row.failsIf_number? _).bind fun _ _ => (row.failsIf_has _).bind fun _ _ =>
    (row.failsIf_text _ _).bind fun _ _ => (row.failsIf_text _ _).bind fun _ _ =>
    (row.failsIf_text _ _).bind fun _ _ => (row.failsIf_text _ _).bind fun _ _ =>
    (row.failsIf_items _ _).bind fun _ _ => (row.failsIf_flag _ _).bind fun _ _ => .ok _) ?_
  -- The tolerance is asked for twice.
  simp

end ValidationRule

/-! ## Benchmarks -/

theorem Row.failsIf_levels (row : Row) :
    FailsIf row.levels (row.Unwritable ["poor"] ∨ row.Unwritable ["average"] ∨
      row.Unwritable ["good"] ∨ row.Unwritable ["excellent"] ∨ False) :=
  (row.failsIf_number? _).bind fun _ _ => (row.failsIf_number? _).bind fun _ _ =>
    (row.failsIf_number? _).bind fun _ _ => (row.failsIf_number? _).bind fun _ _ => .ok _

namespace Benchmark

/-- A row has a direction that there is, or none. -/
def HasDirection (row : Row) : Prop :=
  ∃ word, row.text ["direction"] Direction.higher.name = .ok word ∧
    (Direction.ofWord? (lower word)).isSome = true

/-- A row has a basis that there is, or none. -/
def HasBasis (row : Row) : Prop :=
  ∃ word, row.text ["period"] Basis.agnostic.name = .ok word ∧
    (Basis.ofName? (lower word)).isSome = true

/-- The columns that are read of a row of benchmarks, each with its other names. -/
inductive Reads (row : Row) : List String → Prop
  /-- The id. -/
  | id : Reads row ["kpi_id", "kpi"]
  /-- The direction, if there is an id. -/
  | direction (hid : row.Fills ["kpi_id", "kpi"]) : Reads row ["direction"]
  /-- The basis, if nothing has dropped the row so far. -/
  | basis (hid : row.Fills ["kpi_id", "kpi"]) (hdirection : HasDirection row) :
    Reads row ["period"]
  /-- All others, if the row is to be kept. -/
  | cell {names : List String} (hid : row.Fills ["kpi_id", "kpi"])
    (hdirection : HasDirection row) (hbasis : HasBasis row)
    (h : names ∈ [["poor"], ["average"], ["good"], ["excellent"], ["industry_filter", "industry"],
      ["region_filter", "region", "state"]]) : Reads row names

theorem failsIf_ofRow (row : Row) :
    FailsIf (ofRow row) (∃ names, Reads row names ∧ row.Unwritable names) := by
  have hread : FailsIf (ofRow row) (row.Unwritable ["kpi_id", "kpi"] ∨
      row.Fills ["kpi_id", "kpi"] ∧ (row.Unwritable ["direction"] ∨
      HasDirection row ∧ (row.Unwritable ["period"] ∨
      HasBasis row ∧ ∃ names ∈ [["poor"], ["average"], ["good"], ["excellent"],
        ["industry_filter", "industry"], ["region_filter", "region", "state"]],
        row.Unwritable names))) := by
    refine (row.failsIf_text? _).gate fun id hid => ?_
    cases id with
    | none => exact .inr ⟨by simp [Row.Fills, hid], _, rfl⟩
    | some id =>
      refine .inl ⟨⟨id, hid⟩, (row.failsIf_text _ _).gate fun direction hdirection => ?_⟩
      dsimp only
      cases hword : Direction.ofWord? (lower direction) with
      | none => exact .inr ⟨by simp [HasDirection, hdirection, hword], _, rfl⟩
      | some d =>
        have hknown : HasDirection row := ⟨direction, hdirection, by rw [hword]; rfl⟩
        refine .inl ⟨hknown, (row.failsIf_text _ _).gate fun basis hbasis => ?_⟩
        cases hword : Basis.ofName? (lower basis) with
        | none => exact .inr ⟨by simp [HasBasis, hbasis, hword], _, rfl⟩
        | some b =>
          have hknown : HasBasis row := ⟨basis, hbasis, by rw [hword]; rfl⟩
          refine .inl ⟨hknown, FailsIf.congr (row.failsIf_levels.bind fun _ _ =>
            (row.failsIf_text _ _).bind fun _ _ => (row.failsIf_text _ _).bind fun _ _ => .ok _) ?_⟩
          simp [or_assoc]
  refine hread.congr ⟨?_, ?_⟩
  · rintro (h | ⟨hid, h | ⟨hdirection, h | ⟨hbasis, names, hnames, h⟩⟩⟩)
    · exact ⟨_, .id, h⟩
    · exact ⟨_, .direction hid, h⟩
    · exact ⟨_, .basis hid hdirection, h⟩
    · exact ⟨names, .cell hid hdirection hbasis hnames, h⟩
  · rintro ⟨names, hreads, h⟩
    cases hreads with
    | id => exact .inl h
    | direction hid => exact .inr ⟨hid, .inl h⟩
    | basis hid hdirection => exact .inr ⟨hid, .inr ⟨hdirection, .inl h⟩⟩
    | cell hid hdirection hbasis hnames =>
      exact .inr ⟨hid, .inr ⟨hdirection, .inr ⟨hbasis, names, hnames, h⟩⟩⟩

end Benchmark

/-! ## Insight rules -/

namespace InsightRule

/-- The columns that are read of a row of insight rules, each with its other names. The numbered
columns are read after the one that lists recommendations, if there are none in it. -/
inductive Reads (row : Row) : List String → Prop
  /-- The id. -/
  | id : Reads row ["id", "rule_id"]
  /-- The KPIs and the kind, if there is an id. -/
  | kind {names : List String} (hid : row.Fills ["id", "rule_id"])
    (h : names ∈ [["kpi_ids", "kpi_id"], ["kind"]]) : Reads row names
  /-- The status, if nothing has dropped the row so far. -/
  | status (hid : row.Fills ["id", "rule_id"]) (hkind : HasKind row) : Reads row ["status"]
  /-- The trigger, if nothing has dropped the row so far. -/
  | trigger (hid : row.Fills ["id", "rule_id"]) (hkind : HasKind row) (hstatus : HasStatus row) :
    Reads row ["trigger"]
  /-- The column that lists recommendations, if the row is to be kept. -/
  | recommendations (h : Complete row) : Reads row ["recommendations"]
  /-- All others, once there are recommendations. -/
  | cell {names : List String} (h : Complete row)
    (hadvice : ∃ texts, row.recommendations = .ok texts)
    (h : names ∈ [["priority"], ["title"], ["summary_template", "summary"],
      ["detail_template", "detail"], ["section_id", "section"]]) : Reads row names

/-- What stops a sheet of insight rules at a datum. -/
inductive Stops : Datum → Fault → Prop
  /-- What may stop any sheet. -/
  | row {d : Datum} {f : Fault} (h : RowFault Reads d f) : Stops d f
  /-- The row is to be kept, its recommendations are in numbered columns, and one of them cannot be
  read. -/
  | numbered {d : Datum} {row : Row} {f : Fault} (hrow : Row.ofDatum 1 d = .ok row)
    (complete : Complete row) (unlisted : row.items ["recommendations"] '|' = .ok [])
    (h : FirstFault (NumberedFault "recommendation".toList) row.cells f) : Stops d f

theorem columnKey_recommendation : Row.columnKey "recommendation" = "recommendation" := by
  decide

theorem failsAs_recommendations (row : Row) :
    FailsAs row.recommendations fun f =>
      row.Unwritable ["recommendations"] ∧ f = .numberTooLong ∨
        row.items ["recommendations"] '|' = .ok [] ∧
          FirstFault (NumberedFault "recommendation".toList) row.cells f := by
  refine FailsAs.gate (row.failsIf_items _ _) (fun h => ⟨[], h⟩) fun items hitems => ?_
  cases items with
  | nil =>
    refine .inl ⟨hitems, fun f => ?_⟩
    rw [← columnKey_recommendation]
    exact Row.numbered_eq_error_iff
  | cons item items => exact .inr ⟨by simp [hitems], _, rfl⟩

theorem failsIf_readKind (row : Row) :
    FailsIf (readKind row) (row.Unwritable ["kpi_ids", "kpi_id"] ∨ row.Unwritable ["kind"]) :=
  (row.failsIf_items _ _).bind fun _ _ => (row.failsIf_text _ _).map _

/-- A row fails in the order in which its columns are read. -/
theorem failsAs_ofRow (row : Row) :
    FailsAs (ofRow row) fun f => row.Unwritable ["id", "rule_id"] ∧ f = .numberTooLong ∨
      row.Fills ["id", "rule_id"] ∧
        ((row.Unwritable ["kpi_ids", "kpi_id"] ∨ row.Unwritable ["kind"]) ∧ f = .numberTooLong ∨
      HasKind row ∧ (row.Unwritable ["status"] ∧ f = .numberTooLong ∨
      HasStatus row ∧ (row.Unwritable ["trigger"] ∧ f = .numberTooLong ∨
      row.Fills ["trigger"] ∧ (row.recommendations = .error f ∨
      (∃ texts, row.recommendations = .ok texts) ∧ (∃ names ∈ [["priority"], ["title"],
        ["summary_template", "summary"], ["detail_template", "detail"],
        ["section_id", "section"]], row.Unwritable names) ∧ f = .numberTooLong)))) := by
  refine FailsAs.gate (row.failsIf_text? _) (fun ⟨_, hid⟩ => ⟨_, hid⟩) ?_
  rintro (_ | id) hid
  · exact .inr ⟨by simp [Row.Fills, hid], _, rfl⟩
  refine .inl ⟨⟨id, hid⟩, ?_⟩
  refine FailsAs.gate (failsIf_readKind row) (fun ⟨kind, hkind, _⟩ => ⟨kind, hkind⟩) ?_
  rintro ⟨word, kpiIds⟩ hword
  dsimp only
  rcases hkind : InsightKind.ofName? (lower word) with _ | kind
  · exact .inr ⟨by simp [HasKind, hword, hkind], _, rfl⟩
  refine .inl ⟨⟨_, hword, by rw [hkind]; rfl⟩, ?_⟩
  refine FailsAs.gate (row.failsIf_text _ _) (fun ⟨word, hword, _⟩ => ⟨word, hword⟩) ?_
  intro word hword
  rcases hstatus : Status.ofName? (lower word) with _ | status
  · exact .inr ⟨by simp [HasStatus, hword, hstatus], _, rfl⟩
  refine .inl ⟨⟨word, hword, by rw [hstatus]; rfl⟩, ?_⟩
  refine FailsAs.gate (row.failsIf_text? _) (fun ⟨_, htrigger⟩ => ⟨_, htrigger⟩) ?_
  rintro (_ | trigger) htrigger
  · exact .inr ⟨by simp [Row.Fills, htrigger], _, rfl⟩
  refine .inl ⟨⟨trigger, htrigger⟩, ?_⟩
  refine FailsAs.gate (fun f => Iff.rfl) (fun h => h) fun texts htexts => .inl ⟨⟨texts, htexts⟩, ?_⟩
  refine FailsIf.congr ((row.failsIf_number? _).bind fun _ _ => (row.failsIf_has _).bind fun _ _ =>
    (row.failsIf_text _ _).bind fun _ _ => (row.failsIf_text _ _).bind fun _ _ =>
    (row.failsIf_text _ _).bind fun _ _ => (row.failsIf_text _ _).bind fun _ _ => .ok _) ?_
  simp

/-- The faults of a row, each with what it comes from. -/
theorem ofRow_eq_error_iff {row : Row} {f : Fault} :
    ofRow row = .error f ↔ (∃ names, Reads row names ∧ row.Unwritable names) ∧ f = .numberTooLong ∨
      Complete row ∧ row.items ["recommendations"] '|' = .ok [] ∧
        FirstFault (NumberedFault "recommendation".toList) row.cells f := by
  refine (failsAs_ofRow row f).trans ?_
  simp only [failsAs_recommendations row f]
  constructor
  · rintro
      (⟨h, rfl⟩ | ⟨hid, ⟨h | h, rfl⟩ | ⟨hkind, ⟨h, rfl⟩ | ⟨hstatus, ⟨h, rfl⟩ | ⟨htrigger, h⟩⟩⟩⟩)
    · exact .inl ⟨⟨_, .id, h⟩, rfl⟩
    · exact .inl ⟨⟨_, .kind hid (by simp), h⟩, rfl⟩
    · exact .inl ⟨⟨_, .kind hid (by simp), h⟩, rfl⟩
    · exact .inl ⟨⟨_, .status hid hkind, h⟩, rfl⟩
    · exact .inl ⟨⟨_, .trigger hid hkind hstatus, h⟩, rfl⟩
    · have hcomplete : Complete row := ⟨hid, hkind, hstatus, htrigger⟩
      rcases h with (⟨h, rfl⟩ | h) | ⟨hadvice, ⟨names, hnames, h⟩, rfl⟩
      · exact .inl ⟨⟨_, .recommendations hcomplete, h⟩, rfl⟩
      · exact .inr ⟨hcomplete, h⟩
      · exact .inl ⟨⟨names, .cell hcomplete hadvice hnames, h⟩, rfl⟩
  · rintro (⟨⟨names, hreads, h⟩, rfl⟩ | ⟨⟨hid, hkind, hstatus, htrigger⟩, h⟩)
    · cases hreads with
      | id => exact .inl ⟨h, rfl⟩
      | kind hid hnames =>
        rcases List.mem_pair.1 hnames with rfl | rfl
        · exact .inr ⟨hid, .inl ⟨.inl h, rfl⟩⟩
        · exact .inr ⟨hid, .inl ⟨.inr h, rfl⟩⟩
      | status hid hkind => exact .inr ⟨hid, .inr ⟨hkind, .inl ⟨h, rfl⟩⟩⟩
      | trigger hid hkind hstatus =>
        exact .inr ⟨hid, .inr ⟨hkind, .inr ⟨hstatus, .inl ⟨h, rfl⟩⟩⟩⟩
      | recommendations hcomplete =>
        obtain ⟨hid, hkind, hstatus, htrigger⟩ := hcomplete
        exact .inr ⟨hid, .inr ⟨hkind, .inr ⟨hstatus, .inr ⟨htrigger, .inl (.inl ⟨h, rfl⟩)⟩⟩⟩⟩
      | cell hcomplete hadvice hnames =>
        obtain ⟨hid, hkind, hstatus, htrigger⟩ := hcomplete
        exact .inr ⟨hid, .inr ⟨hkind, .inr ⟨hstatus, .inr ⟨htrigger,
          .inr ⟨hadvice, ⟨_, hnames, h⟩, rfl⟩⟩⟩⟩⟩
    · exact .inr ⟨hid, .inr ⟨hkind, .inr ⟨hstatus, .inr ⟨htrigger, .inl (.inr h)⟩⟩⟩⟩

/-- What a row of insight rules fails with does not depend on its place. -/
theorem ofRow_error_of_cells {row row' : Row} (hcells : row.cells = row'.cells) {f : Fault}
    (h : ofRow row = .error f) : ofRow row' = .error f := by
  have hsame : row.SameCells row' := Row.sameCells_of_cells hcells
  have hadvice : row.recommendations = row'.recommendations := by
    rw [Row.recommendations, Row.recommendations, hsame.items, Row.numbered, Row.numbered, hcells]
  rw [ofRow, readKind, hsame.text?, hsame.text, hsame.items, hsame.number?, hsame.has,
    hadvice] at h
  rw [ofRow, readKind]
  rcases bind_eq_error_iff.1 h with h | ⟨id, hid, h⟩
  · exact bind_eq_error_iff.2 (.inl h)
  · cases id with
    | none => cases h
    | some id => exact bind_eq_error_iff.2 (.inr ⟨some id, hid, h⟩)

theorem stops_iff (d : Datum) (f : Fault) :
    Stops d f ↔ NotRow d f ∨ ∃ row, Row.ofDatum 1 d = .ok row ∧ ofRow row = .error f := by
  constructor
  · intro h
    cases h with
    | row h =>
      cases h with
      | notRow hnot => exact .inl hnot
      | unwritable hrow hreads h =>
        exact .inr ⟨_, hrow, ofRow_eq_error_iff.2 (.inl ⟨⟨_, hreads, h⟩, rfl⟩)⟩
    | numbered hrow hcomplete hunlisted h =>
      exact .inr ⟨_, hrow, ofRow_eq_error_iff.2 (.inr ⟨hcomplete, hunlisted, h⟩)⟩
  · rintro (hnot | ⟨row, hrow, h⟩)
    · exact .row (.notRow hnot)
    · rcases ofRow_eq_error_iff.1 h with
        ⟨⟨names, hreads, hcell⟩, rfl⟩ | ⟨hcomplete, hunlisted, hnumbered⟩
      · exact .row (.unwritable hrow hreads hcell)
      · exact .numbered hrow hcomplete hunlisted hnumbered

theorem stopsAt (rows : List Datum) : StopsAt loadInsightRules Stops rows := by
  refine stopsAt_of_error fun f => ?_
  rw [loadInsightRules, loadRows, map_eq_error_iff]
  exact readRows_eq_error_iff (fun row row' hcells f => ofRow_error_of_cells hcells) stops_iff
    rows f

end InsightRule

/-- The sheets of the configuration are loaded unless a row has a fault, and stop with the first
one. In the sheets of KPIs, validation rules and benchmarks only a row that is not a mapping has a
fault, and one with a whole number that is too long to be written and has to be. In the sheet of
insight rules a row also has one if it numbers its recommendations with too many digits or with
digits that are not decimal. -/
theorem configuration_stops_at_first_fault (rows : List Datum) (tolerance : Float) :
    StopsAt loadKpis (RowFault Kpi.Reads) rows ∧
      StopsAt (loadValidationRules tolerance) (RowFault ValidationRule.Reads) rows ∧
      StopsAt loadBenchmarks (RowFault Benchmark.Reads) rows ∧
      StopsAt loadInsightRules InsightRule.Stops rows := by
  refine ⟨?_, ?_, ?_, InsightRule.stopsAt rows⟩
  · exact Kpi.rowReader.stopsAt Kpi.failsIf_ofRow rows
  · exact (ValidationRule.rowReader tolerance).stopsAt (ValidationRule.failsIf_ofRow tolerance) rows
  · exact Benchmark.rowReader.stopsAt Benchmark.failsIf_ofRow rows

/-- A row whose one recommendation is numbered with a superscript. -/
def superscriptRow : List (Datum × Datum) :=
  [(.text "id", .text "INS-1"), (.text "kpi_id", .text "margin"), (.text "trigger", .text "poor-"),
    (.text "recommendation_²", .text "Call back")]

/-- Rows that are all mappings, with cells of one value each, do not always make a sheet. -/
theorem superscript_stops_insightRules : ¬ ∀ rows : List (List (Datum × Datum)),
    (∀ fields ∈ rows, ∀ entry ∈ fields, entry.2.IsScalar) →
      (∃ l, loadKpis (rows.map .record) = .ok l) ∧
      (∀ tolerance, ∃ l, loadValidationRules tolerance (rows.map .record) = .ok l) ∧
      (∃ l, loadBenchmarks (rows.map .record) = .ok l) ∧
      ∃ l, loadInsightRules (rows.map .record) = .ok l := by
  intro h
  obtain ⟨-, -, -, l, hl⟩ := h [superscriptRow] (by decide)
  have hstops : (loadInsightRules ([superscriptRow].map .record)).isOk = false := by
    decide
  rw [hl] at hstops
  cases hstops

end Scorecard
