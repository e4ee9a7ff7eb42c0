import Scorecard.Proofs.Sheet.Readings

/-!
# Readings in two shapes

Readings are given as a mapping from ids to values, or as rows with an id and a value each. A
mapping is read as it stands, and blank ids are passed over when the readings are made. Rows go
through the columns of a sheet first, where ids and values are trimmed and a blank cell counts as
none. If no two ids are spellings of one KPI, both shapes make the same readings: one for each id
that is not blank, in the order of the ids, with the number of its value.
-/

namespace Scorecard

open Text (fold lower trim)

theorem cellNumber_trim (s : String) : cellNumber (trim s) = cellNumber s := by
  rw [cellNumber, cellNumber, Text.trim_trim]

theorem Datum.cell?_text (s : String) :
    (Datum.text s).cell? = .ok (if trim s = "" then none else some (trim s)) := by
  change Except.ok (if Text.isBlank s then none else some (trim s)) = _
  simp only [Text.isBlank_iff]

namespace Readings

/-! ## Rows with an id and a value -/

/-- The row with an id and a value. -/
def pairRow (id s : String) : List (Datum × Datum) :=
  [(.text "kpi_id", .text id), (.text "value", .text s)]

/-- The cells of such a row are texts. -/
theorem cells_pairRow (position : Nat) (id s : String) :
    (Row.ofFields position (pairRow id s)).cells = [("kpiid", .text id), ("value", .text s)] := by
  have hkey : Row.columnKey "kpi_id" = "kpiid" := by decide
  have hvalue : Row.columnKey "value" = "value" := by decide
  simp [Row.ofFields, pairRow, Datum.toText, hkey, hvalue, Assoc.ofList, Assoc.put]

theorem id_pairRow (position : Nat) (id s : String) :
    (Row.ofFields position (pairRow id s)).text? ["kpi_id", "id"] =
      .ok (if trim id = "" then none else some (trim id)) := by
  have hkey : Row.columnKey "kpi_id" = "kpiid" := by decide
  have hother : Row.columnKey "id" = "id" := by decide
  rw [Row.text?, Row.text?, Row.datum, Row.datum, cells_pairRow, hkey, hother]
  change (Datum.text id).cell? >>= _ = _
  rw [Datum.cell?_text]
  split <;> rfl

theorem value_pairRow (position : Nat) (id s : String) :
    (Row.ofFields position (pairRow id s)).text ["value"] "" = .ok (trim s) := by
  have hvalue : Row.columnKey "value" = "value" := by decide
  rw [Row.text, Row.text?, Row.datum, cells_pairRow, hvalue]
  change ((Datum.text s).cell? >>= _).map _ = _
  rw [Datum.cell?_text]
  split
  · rename_i hblank
    rw [hblank]
    rfl
  · rfl

/-- Such a row names a KPI unless its id is blank. -/
theorem mention?_pairRow (id s : String) :
    mention? (pairRow id s) = if trim id = "" then none else some (trim id, trim s) := by
  rw [mention?, id_pairRow, value_pairRow]
  split <;> rfl

/-- Such rows can be read. -/
theorem exists_readRows_pairRows (cells : List (String × String)) :
    ∃ entries, readRows entryOfRow? 1 (cells.map fun e => .record (pairRow e.1 e.2)) =
      .ok entries := by
  rw [readRows_eq_mapM]
  refine exists_mapM_eq_ok ?_
  rintro ⟨d, position⟩ hd
  obtain ⟨e, -, rfl⟩ := List.mem_map.1 (List.fst_mem_of_mem_zipIdx hd)
  have hread : readRow entryOfRow? (.record (pairRow e.1 e.2), position) =
      entryOfRow? (Row.ofFields position (pairRow e.1 e.2)) := rfl
  rw [hread, entryOfRow?, id_pairRow, value_pairRow]
  split <;> exact ⟨_, rfl⟩

/-! ## Both shapes -/

/-- The KPIs that the ids of some cells name, with the numbers that the cells give. A blank id names
none. -/
def cellMentions (cells : List (String × String)) : List (String × Option Float) :=
  (cells.filter fun e => trim e.1 ≠ "").map fun e => (trim e.1, cellNumber e.2)

theorem mentions_pairRows (cells : List (String × String)) :
    mentions (cells.map fun e => pairRow e.1 e.2) = cellMentions cells := by
  unfold mentions cellMentions
  induction cells with
  | nil => rfl
  | cons e cells ih =>
    rw [List.map_cons, List.filterMap_cons, mention?_pairRow]
    by_cases hblank : trim e.1 = ""
    · rw [if_pos hblank, List.filter_cons_of_neg (by simp [hblank]), ih]
    · rw [if_neg hblank, List.filter_cons_of_pos (by simp [hblank])]
      dsimp only
      rw [List.map_cons, List.map_cons, ih, cellNumber_trim]

theorem named_cells (cells : List (String × String)) :
    named (cells.map fun e => (e.1, cleanText e.2)) = cellMentions cells := by
  have hnumber (s : String) : (cleanText s).finiteNumber = cellNumber s :=
    Datum.finiteNumber_eq (number?_cleanText s)
  rw [named, cellMentions, List.filter_map, List.map_map]
  refine List.map_congr_left fun e _ => ?_
  rw [Function.comp_apply, hnumber]

/-- The cells of a mapping are read as the KPIs that they name. -/
theorem ofCells_texts (cells : List (String × String)) :
    ofCells (cells.map fun e => (e.1, .text e.2)) = .ok ⟨recordAll (cellMentions cells)⟩ := by
  have hnumbers : ∀ e ∈ cells.map fun e => (e.1, cleanText e.2),
      trim e.1 ≠ "" → e.2.number? = .ok e.2.finiteNumber := by
    intro e he _
    obtain ⟨cell, -, rfl⟩ := List.mem_map.1 he
    rw [number?_cleanText, Datum.finiteNumber_eq (number?_cleanText cell.2)]
  rw [ofCells, List.map_map, ← named_cells]
  exact ofEntries_of_numbers hnumbers

/-- Ids that are texts are written as they stand. -/
theorem ofFields_texts (cells : List (String × Datum)) :
    ofFields (cells.map fun e => (.text e.1, e.2)) = ofCells cells := by
  rw [ofFields, ofCells, ofEntries, List.foldlM_map, List.foldlM_map]
  rfl

/-- Different KPIs are still different when a blank id is left out. -/
theorem nodup_cellMentions {cells : List (String × String)}
    (h : (cells.map fun e => fold e.1).Nodup) :
    ((cellMentions cells).map fun e => lower e.1).Nodup := by
  have hfold : ((cellMentions cells).map fun e => lower e.1) =
      (cells.filter fun e => trim e.1 ≠ "").map fun e => fold e.1 := by
    rw [cellMentions, List.map_map]
    rfl
  rw [hfold]
  exact h.sublist (List.filter_sublist.map _)

/-- Rows with an id and a value are read as the mapping from the ids to the values. -/
theorem ofRows_pairRows {cells : List (String × String)}
    (h : (cells.map fun e => fold e.1).Nodup) :
    ofRows (cells.map fun e => .record (pairRow e.1 e.2)) =
      ofCells (cells.map fun e => (e.1, .text e.2)) := by
  have hkeys : ((cellMentions cells).map Prod.fst).Nodup := by
    have hlower := nodup_cellMentions h
    rw [← Function.comp_def lower Prod.fst, ← List.map_map] at hlower
    exact hlower.of_map lower
  obtain ⟨entries, hentries⟩ := exists_readRows_pairRows cells
  rw [← Function.comp_def Datum.record, ← List.map_map] at hentries ⊢
  rw [ofRows_of_readRows hentries, mentions_pairRows, Assoc.ofList_of_nodup hkeys, ofCells_texts]

/-- Entries for different KPIs each make their own reading. -/
theorem recordAll_of_nodup {entries : List (String × Option Float)}
    (h : (entries.map fun e => lower e.1).Nodup) :
    recordAll entries = entries.map fun e => ⟨lower e.1, e.1, e.2⟩ := by
  induction entries using List.reverseRecOn with
  | nil => rfl
  | append_singleton entries e ih =>
    rw [List.map_append, List.map_singleton] at h
    obtain ⟨hentries, -, hnew⟩ := List.nodup_append.1 h
    have hnew : lower e.1 ∉ (recordAll entries).map (·.key) := by
      rw [ih hentries, List.map_map]
      exact fun hmem => hnew _ hmem _ (List.mem_singleton_self _) rfl
    rw [recordAll, List.foldl_append, ← recordAll, List.foldl_cons, List.foldl_nil,
      record_of_notMem _ _ hnew, ih hentries, List.map_append, List.map_singleton]

/-- Values of ids that are no two spellings of one KPI are read alike from a mapping and from rows:
each id that is not blank stands in its place with the number of its value. -/
theorem ofDatum_either_shape {cells : List (String × String)}
    (h : (cells.map fun e => fold e.1).Nodup) :
    ∃ r, ofDatum (.record (cells.map fun e => (.text e.1, .text e.2))) = .ok r ∧
      ofDatum (.list (cells.map fun e => .record (pairRow e.1 e.2))) = .ok r ∧
      r.items = cellMentions cells := by
  have hcells := ofCells_texts cells
  refine ⟨⟨recordAll (cellMentions cells)⟩, ?_, ?_, ?_⟩
  · rw [ofDatum, ← hcells, ← ofFields_texts, List.map_map]
    rfl
  · exact (ofRows_pairRows h).trans hcells
  · rw [items, recordAll_of_nodup (nodup_cellMentions h), List.map_map]
    exact List.map_id _

/-- A blank id, white space around an id and a value, signs, a comma and words for no value. -/
theorem ofDatum_either_shape_signs :
    let cells := [(" Revenue", "$1,200.50 "), ("  ", "7"), ("costs\t", " N/A"), ("Margin", "45 %"),
      ("staff", ""), ("ÖFEN", "--")]
    (cells.map fun e => fold e.1).Nodup ∧
      ∃ r, ofDatum (.record (cells.map fun e => (.text e.1, .text e.2))) = .ok r ∧
        ofDatum (.list (cells.map fun e => .record (pairRow e.1 e.2))) = .ok r ∧
        r.items = cellMentions cells := by
  have h : ([(" Revenue", "$1,200.50 "), ("  ", "7"), ("costs\t", " N/A"), ("Margin", "45 %"),
      ("staff", ""), ("ÖFEN", "--")].map fun e : String × String => fold e.1).Nodup := by
    decide
  exact ⟨h, ofDatum_either_shape h⟩

end Readings

end Scorecard
