import Scorecard.Proofs.Assoc
import Scorecard.Proofs.Readings
import Scorecard.Proofs.Sheet.Faults
import Scorecard.Sheet.Readings

/-!
# Readings of rows

The readings of a sheet are made in two steps. First the rows are put into a map by the spelling of
their ids, and then this map is read as any other, where spellings that differ in letter case are
one KPI. A KPI stands under the first of its spellings. Its number is not always that of the last
row that names it: it is that of the last row with the spelling that came into use last, so a row
that goes back to an older spelling does not count.
-/

namespace Scorecard

open Text (fold lower trim)

/-- The number in a value cell: nothing for the words for no value, and otherwise the number of the
text without currency and percent signs. -/
def cellNumber (s : String) : Option Float :=
  if absentWords.contains (lower (trim s)) then none
  else textNumber? (Text.without (fun c => c = '$' || c = '%') (trim s))

/-- The finite number of a datum; nothing if there is none and for a whole number out of range. -/
def Datum.finiteNumber (d : Datum) : Option Float :=
  d.number?.toOption.join

theorem Datum.finiteNumber_eq {d : Datum} {x : Option Float} (h : d.number? = .ok x) :
    d.finiteNumber = x := by
  rw [finiteNumber, h]
  rfl

theorem number?_cleanText (s : String) : (cleanText s).number? = .ok (cellNumber s) := by
  unfold cleanText cellNumber
  dsimp only
  split <;> rfl

/-- The texts of cells are trimmed, and not blank. -/
theorem Row.spelled_of_text? {row : Row} {names : List String} {s : String}
    (h : row.text? names = .ok (some s)) : trim s = s ∧ s ≠ "" := by
  induction names with
  | nil => cases h
  | cons name names ih =>
    rw [text?] at h
    obtain ⟨cell, hcell, h⟩ := bind_eq_ok_iff.1 h
    cases cell with
    | none => exact ih h
    | some t =>
      obtain rfl := Option.some.inj (Except.ok.inj h)
      obtain ⟨-, -, rfl, hne⟩ := Datum.cell?_eq_some_iff.1 hcell
      exact ⟨Text.trim_trim _, hne⟩

namespace Readings

/-! ## Rows that name a KPI -/

/-- The id that a row names and the text in its value cell; nothing if it names none, or if it
cannot be read. -/
def mention? (fields : List (Datum × Datum)) : Option (String × String) := do
  let row := Row.ofFields 1 fields
  let id ← (row.text? ["kpi_id", "id"]).toOption.join
  (row.text ["value"] "").toOption.map fun text => (id, text)

/-- The ids that the rows name, as they are spelled there, with the numbers that they give. -/
def mentions (rows : List (List (Datum × Datum))) : List (String × Option Float) :=
  (rows.filterMap mention?).map fun (id, text) => (id, cellNumber text)

/-- The rows that name one KPI, in any letter case. -/
def mentionsOf (rows : List (List (Datum × Datum))) (name : String) :
    List (String × Option Float) :=
  (mentions rows).filter fun mention => fold mention.1 = fold name

/-- The first spelling of a KPI, with the number of the last row that names it. -/
def lastReading (named : List (String × Option Float)) : Option (String × Option Float) := do
  let first ← (named.map Prod.fst).head?
  let last ← named.getLast?
  return (first, last.2)

/-- The spelling of a KPI that came into use last. -/
def newestSpelling? (named : List (String × Option Float)) : Option String :=
  (named.map Prod.fst).eraseDups.getLast?

/-- The first spelling of a KPI, with the number of the last row with the spelling that came into
use last. -/
def newestReading (named : List (String × Option Float)) : Option (String × Option Float) := do
  let first ← (named.map Prod.fst).head?
  let newest ← newestSpelling? named
  let last ← (named.filter (·.1 = newest)).getLast?
  return (first, last.2)

theorem lastReading_concat (named : List (String × Option Float)) (m : String × Option Float) :
    lastReading (named ++ [m]) = some ((named.map Prod.fst).head?.getD m.1, m.2) := by
  rw [lastReading, List.getLast?_concat, List.map_append, List.head?_append]
  cases (named.map Prod.fst).head? <;> rfl

theorem map_fst_lastReading (named : List (String × Option Float)) :
    (lastReading named).map Prod.fst = (named.map Prod.fst).head? := by
  induction named using List.reverseRecOn with
  | nil => rfl
  | append_singleton named m _ =>
    rw [lastReading_concat, List.map_append, List.head?_append]
    cases (named.map Prod.fst).head? <;> rfl

/-- The two agree where the last row that names the KPI uses the newest spelling. -/
theorem newestReading_eq_lastReading {named : List (String × Option Float)}
    (h : newestSpelling? named = named.getLast?.map Prod.fst) :
    newestReading named = lastReading named := by
  unfold newestReading lastReading
  rw [h]
  induction named using List.reverseRecOn with
  | nil => rfl
  | append_singleton named m _ => simp [List.filter_append]

/-- The map of the rows by spelling, read in its order, has the newest spelling last. -/
theorem lastReading_ofList (named : List (String × Option Float)) :
    lastReading (Assoc.ofList named) = newestReading named := by
  unfold lastReading newestReading newestSpelling?
  rw [Assoc.keys_ofList, head?_eraseDups, Assoc.getLast?_ofList]
  cases (named.map Prod.fst).head? with
  | none => rfl
  | some first =>
    cases (named.map Prod.fst).eraseDups.getLast? with
    | none => rfl
    | some newest => exact Option.bind_map

/-! ## Reading a map -/

/-- The readings that a map makes. -/
def recordAll (entries : List (String × Option Float)) : List Reading :=
  entries.foldl (fun readings e => record (lower e.1) e.1 e.2 readings) []

/-- Of the entries for one KPI in a map the first gives the spelling and the last the number. -/
theorem find?_recordAll (entries : List (String × Option Float)) (k : String) :
    ((recordAll entries).find? (·.key = k)).map (fun r => (r.id, r.value)) =
      lastReading (entries.filter fun e => lower e.1 = k) := by
  induction entries using List.reverseRecOn with
  | nil => rfl
  | append_singleton entries e ih =>
    have hstep : recordAll (entries ++ [e]) = record (lower e.1) e.1 e.2 (recordAll entries) := by
      rw [recordAll, List.foldl_append]
      rfl
    rw [hstep, find?_record, List.filter_append, List.filter_singleton]
    by_cases he : lower e.1 = k
    · have hid : ((recordAll entries).find? (·.key = k)).map (·.id) =
          ((entries.filter fun e => lower e.1 = k).map Prod.fst).head? := by
        rw [← map_fst_lastReading, ← ih, Option.map_map]
        rfl
      rw [if_pos he.symm, decide_eq_true he, cond_true, lastReading_concat, hid]
    · rw [if_neg (Ne.symm he), decide_eq_false he, cond_false, List.append_nil, ih]

/-- The KPIs that the entries of a map name, with their finite numbers. -/
def named (entries : List (String × Datum)) : List (String × Option Float) :=
  (entries.filter fun e => trim e.1 ≠ "").map fun e => (trim e.1, e.2.finiteNumber)

theorem named_cons_of_blank {name : String} (raw : Datum) (entries : List (String × Datum))
    (h : trim name = "") : named ((name, raw) :: entries) = named entries := by
  rw [named, List.filter_cons_of_neg (by simp [h]), named]

theorem named_cons_of_ne {name : String} (raw : Datum) (entries : List (String × Datum))
    (h : trim name ≠ "") :
    named ((name, raw) :: entries) = (trim name, raw.finiteNumber) :: named entries := by
  rw [named, List.filter_cons_of_pos (by simp [h]), List.map_cons, named]

/-- Trimmed ids that are not blank are named as they are. -/
theorem named_spelled {m : List (String × String)} (h : ∀ e ∈ m, trim e.1 = e.1 ∧ e.1 ≠ "") :
    named (m.map fun e => (e.1, cleanText e.2)) = m.map fun e => (e.1, cellNumber e.2) := by
  induction m with
  | nil => rfl
  | cons e m ih =>
    obtain ⟨⟨htrim, hne⟩, hm⟩ := List.forall_mem_cons.1 h
    have hname : trim e.1 ≠ "" := htrim.symm ▸ hne
    have hnumber : (cleanText e.2).finiteNumber = cellNumber e.2 :=
      Datum.finiteNumber_eq (number?_cleanText e.2)
    rw [List.map_cons, named_cons_of_ne _ _ hname, htrim, hnumber, ih hm, List.map_cons]

theorem add_of_blank (r : Readings) {name : String} (raw : Datum) (h : trim name = "") :
    r.add name raw = .ok r :=
  if_pos (String.isEmpty_iff.2 h)

theorem add_of_ne (r : Readings) {name : String} (raw : Datum) (h : trim name ≠ "") :
    r.add name raw = raw.number?.map fun value =>
      ⟨record (lower (trim name)) (trim name) value r.entries⟩ :=
  if_neg fun hempty => h (String.isEmpty_iff.1 hempty)

/-- A map whose data have numbers is read entry by entry. -/
theorem addAll_of_numbers {entries : List (String × Datum)}
    (h : ∀ e ∈ entries, trim e.1 ≠ "" → e.2.number? = .ok e.2.finiteNumber)
    (start : List Reading) :
    entries.foldlM (fun r (name, raw) => Readings.add r name raw) ⟨start⟩ =
      .ok ⟨(named entries).foldl
        (fun readings e => record (lower e.1) e.1 e.2 readings) start⟩ := by
  induction entries generalizing start with
  | nil => rfl
  | cons e entries ih =>
    obtain ⟨he, hentries⟩ := List.forall_mem_cons.1 h
    rw [List.foldlM_cons]
    dsimp only
    by_cases hblank : trim e.1 = ""
    · rw [add_of_blank _ _ hblank, named_cons_of_blank _ _ hblank]
      exact ih hentries start
    · rw [add_of_ne _ _ hblank, he hblank, named_cons_of_ne _ _ hblank, List.foldl_cons]
      exact ih hentries _

theorem ofEntries_of_numbers {entries : List (String × Datum)}
    (h : ∀ e ∈ entries, trim e.1 ≠ "" → e.2.number? = .ok e.2.finiteNumber) :
    ofEntries entries = .ok ⟨recordAll (named entries)⟩ :=
  addAll_of_numbers h []

/-! ## Reading rows -/

/-- What is read of a row is what it mentions, wherever it stands. -/
theorem mention?_of_entryOfRow? {fields : List (Datum × Datum)} {position : Nat}
    {entry : Option (String × Datum)}
    (h : entryOfRow? (Row.ofFields position fields) = .ok entry) :
    entry = (mention? fields).map fun e => (e.1, cleanText e.2) := by
  have hcells : (Row.ofFields position fields).SameCells (Row.ofFields 1 fields) :=
    Row.sameCells_of_cells rfl
  rw [entryOfRow?, hcells.text?, hcells.text] at h
  obtain ⟨id, hid, h⟩ := bind_eq_ok_iff.1 h
  cases id with
  | none =>
    obtain rfl := Except.ok.inj h
    rw [mention?, hid]
    rfl
  | some id =>
    obtain ⟨s, hs, rfl⟩ := map_eq_ok_iff.1 h
    rw [mention?, hid, hs]
    rfl

/-- The ids that rows name are trimmed, and not blank. -/
theorem spelled_of_mention? {fields : List (Datum × Datum)} {e : String × String}
    (h : mention? fields = some e) : trim e.1 = e.1 ∧ e.1 ≠ "" := by
  obtain ⟨id, hid, h⟩ := Option.bind_eq_some_iff.1 h
  obtain ⟨s, -, rfl⟩ := Option.map_eq_some_iff.1 h
  cases hread : (Row.ofFields 1 fields).text? ["kpi_id", "id"] with
  | error f =>
    rw [hread] at hid
    cases hid
  | ok found =>
    rw [hread] at hid
    obtain rfl : found = some id := hid
    exact Row.spelled_of_text? hread

theorem trim_of_mem_mentions {rows : List (List (Datum × Datum))} {m : String × Option Float}
    (h : m ∈ mentions rows) : trim m.1 = m.1 := by
  obtain ⟨e, he, rfl⟩ := List.mem_map.1 h
  obtain ⟨fields, -, hmention⟩ := List.mem_filterMap.1 he
  exact (spelled_of_mention? hmention).1

/-- What is read of rows is what they mention. -/
theorem entries_of_readRows {rows : List (List (Datum × Datum))}
    {entries : List (Option (String × Datum))}
    (h : readRows entryOfRow? 1 (rows.map .record) = .ok entries) :
    entries.filterMap id = (rows.filterMap mention?).map fun e => (e.1, cleanText e.2) := by
  rw [readRows_eq_mapM, mapM_eq_ok_iff, List.zipIdx_map, List.forall₂_map_left_iff] at h
  have hmentions : List.Forall₂ (fun (fields : List (Datum × Datum)) entry =>
      entry = (mention? fields).map fun e => (e.1, cleanText e.2))
      ((rows.zipIdx 1).map Prod.fst) entries := by
    rw [List.forall₂_map_left_iff]
    refine h.imp ?_
    rintro ⟨fields, position⟩ entry hread
    obtain ⟨_, hrow, hread⟩ := bind_eq_ok_iff.1 hread
    obtain ⟨_, hrecord, -, rfl⟩ := Row.ofDatum_eq_ok_iff.1 hrow
    obtain rfl := Datum.record.inj hrecord
    exact mention?_of_entryOfRow? hread
  rw [List.zipIdx_map_fst] at hmentions
  have hread := filterMap_congr_forall₂ (g := id)
    (f := fun fields => (mention? fields).map fun e => (e.1, cleanText e.2)) hmentions
    fun fields entry hentry => hentry.symm
  rw [← hread, List.map_filterMap]

/-- Rows that can be read are read as a map by the spelling of their ids. -/
theorem ofRows_of_readRows {rows : List (List (Datum × Datum))}
    {entries : List (Option (String × Datum))}
    (h : readRows entryOfRow? 1 (rows.map .record) = .ok entries) :
    ofRows (rows.map .record) = .ok ⟨recordAll (Assoc.ofList (mentions rows))⟩ := by
  have hspelled : ∀ e ∈ Assoc.ofList (rows.filterMap mention?), trim e.1 = e.1 ∧ e.1 ≠ "" := by
    intro e he
    have hkey : e.1 ∈ (Assoc.ofList (rows.filterMap mention?)).map Prod.fst :=
      List.mem_map_of_mem he
    rw [Assoc.keys_ofList, List.mem_eraseDups] at hkey
    obtain ⟨e', he', hsame⟩ := List.mem_map.1 hkey
    obtain ⟨fields, -, hmention⟩ := List.mem_filterMap.1 he'
    rw [← hsame]
    exact spelled_of_mention? hmention
  have hnumbers : ∀ e ∈ (Assoc.ofList (rows.filterMap mention?)).map fun e => (e.1, cleanText e.2),
      trim e.1 ≠ "" → e.2.number? = .ok e.2.finiteNumber := by
    intro e he _
    obtain ⟨e', -, rfl⟩ := List.mem_map.1 he
    rw [number?_cleanText, Datum.finiteNumber_eq (number?_cleanText e'.2)]
  refine bind_eq_ok_iff.2 ⟨entries, h, ?_⟩
  rw [entries_of_readRows h, ← Assoc.map_ofList, ofEntries_of_numbers hnumbers,
    named_spelled hspelled, mentions, Assoc.map_ofList]

/-- The columns that are read of a row with a reading. -/
def Reads : Row → List String → Prop :=
  ReadsNamed ["kpi_id", "id"] [["value"]]

theorem failsIf_entryOfRow? (row : Row) :
    FailsIf (entryOfRow? row) (∃ names, Reads row names ∧ row.Unwritable names) := by
  refine Row.failsIf_named ⟨_, rfl⟩ fun id => ?_
  exact ((row.failsIf_text _ _).map _).congr (by simp)

theorem entryOfRow?_of_cells {row row' : Row} (h : row.cells = row'.cells) :
    entryOfRow? row = entryOfRow? row' := by
  have hcells : row.SameCells row' := Row.sameCells_of_cells h
  rw [entryOfRow?, entryOfRow?, hcells.text?, hcells.text]

/-- The readings of rows can be made unless a row has a column that is read and cannot be
written. -/
theorem ofRows_stopsAt (rows : List (List (Datum × Datum))) :
    StopsAt ofRows (RowFault Reads) (rows.map .record) := by
  refine stopsAt_of_error fun f => ?_
  have hrows : readRows entryOfRow? 1 (rows.map .record) = .error f ↔
      FirstFault (RowFault Reads) (rows.map .record) f :=
    readRows_eq_error_iff (fun row row' hcells f hread => entryOfRow?_of_cells hcells ▸ hread)
      (rowFault_iff failsIf_entryOfRow?) _ f
  rw [← hrows]
  cases h : readRows entryOfRow? 1 (rows.map .record) with
  | error f' => simp [ofRows, bind_eq_error_iff, h]
  | ok entries =>
    rw [ofRows_of_readRows h]
    simp

/-- The readings of rows: each KPI that a row names stands under the first of its spellings, with
the number of the last row with the spelling that came into use last. This is the last row that
names the KPI, if no row goes back to an older spelling. Only a whole number that is too long to be
written, in a name of a column or in a cell that is read, stops the reading. -/
theorem ofRows_reads_newest_spelling (rows : List (List (Datum × Datum))) :
    StopsAt ofRows (RowFault Reads) (rows.map .record) ∧
    ∀ r, ofRows (rows.map .record) = .ok r → ∀ name,
      (r.find? name).map (fun reading => (reading.id, reading.value)) =
          newestReading (mentionsOf rows name) ∧
        (newestSpelling? (mentionsOf rows name) = (mentionsOf rows name).getLast?.map Prod.fst →
          (r.find? name).map (fun reading => (reading.id, reading.value)) =
            lastReading (mentionsOf rows name)) := by
  refine ⟨ofRows_stopsAt rows, fun r hr name => ?_⟩
  obtain ⟨entries, hentries, -⟩ := bind_eq_ok_iff.1 hr
  rw [ofRows_of_readRows hentries] at hr
  obtain rfl := Except.ok.inj hr
  have hnamed : (mentions rows).filter (fun m => lower m.1 = fold name) = mentionsOf rows name := by
    refine List.filter_congr fun m hm => ?_
    rw [fold, fold, trim_of_mem_mentions hm]
  have hfind : ((⟨recordAll (Assoc.ofList (mentions rows))⟩ : Readings).find? name).map
      (fun reading => (reading.id, reading.value)) = newestReading (mentionsOf rows name) := by
    rw [find?, find?_recordAll, Assoc.filter_ofList (fun id => lower id = fold name), hnamed,
      lastReading_ofList]
  exact ⟨hfind, fun h => hfind.trans (newestReading_eq_lastReading h)⟩

/-- The last of these rows goes back to the first spelling, and the second one decides. -/
def interleavedRows : List (List (Datum × Datum)) :=
  [[(.text "kpi_id", .text "Revenue"), (.text "value", .text "1")],
    [(.text "kpi_id", .text "revenue"), (.text "value", .text "2")],
    [(.text "kpi_id", .text "Revenue"), (.text "value", .text "3")]]

/-- The last row that names a KPI does not always give its number. -/
theorem ofRows_interleaved : ¬ ∀ rows : List (List (Datum × Datum)),
    ∃ r, ofRows (rows.map .record) = .ok r ∧ ∀ name,
      (r.find? name).map (fun reading => (reading.id, reading.value)) =
        lastReading (mentionsOf rows name) := by
  intro h
  obtain ⟨r, hr, hname⟩ := h interleavedRows
  have hlast : ((lastReading (mentionsOf interleavedRows "revenue")).bind (·.2)).any (· == 3.0) =
      true := by decide +kernel
  have hread : ((ofRows (interleavedRows.map .record)).toOption.bind
      (·.value? "revenue")).any (· == 3.0) = false := by decide +kernel
  rw [hr] at hread
  rw [← hname, Option.bind_map] at hlast
  exact Bool.false_ne_true (hread.symm.trans hlast)

end Readings

end Scorecard
