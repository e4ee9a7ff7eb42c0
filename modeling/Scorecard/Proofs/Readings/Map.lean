import Scorecard.Proofs.Sheet.Readings

/-!
# Readings as a map

The readings that a mapping makes are a map whose keys are ids in any letter case and with any
white space around them. Of the entries for one KPI the first gives the spelling and the last the
number, and every way of looking at the readings tells the same: a listed id addresses the KPI that
it is listed for, so no view goes to the number of another KPI.
-/

namespace Scorecard

open Text (fold lower trim)

namespace Readings

/-! ## What each view shows -/

/-- The reading that the id of a reading addresses is that reading. -/
theorem WellFormed.find?_of_mem {r : Readings} (h : r.WellFormed) {reading : Reading}
    (hmem : reading ∈ r.entries) : r.find? reading.id = some reading := by
  have hkey : reading.key = fold reading.id := by
    rw [fold, h.trimmed reading hmem, h.key reading hmem]
  obtain ⟨found, hfound⟩ : ∃ found, r.find? reading.id = some found := by
    rw [← Option.isSome_iff_exists, find?, List.find?_isSome]
    exact ⟨reading, hmem, decide_eq_true hkey⟩
  have hsame : found.key = fold reading.id := by simpa using List.find?_some hfound
  rw [hfound, List.inj_on_of_nodup_map h.distinct (List.mem_of_find?_eq_some hfound) hmem
    (hsame.trans hkey.symm)]

theorem WellFormed.id?_of_mem {r : Readings} (h : r.WellFormed) {id : String} (hmem : id ∈ r.ids) :
    r.id? id = some id := by
  obtain ⟨reading, hreading, rfl⟩ := List.mem_map.1 hmem
  rw [id?, h.find?_of_mem hreading, Option.map_some]

theorem WellFormed.value?_of_mem {r : Readings} (h : r.WellFormed) {reading : Reading}
    (hmem : reading ∈ r.entries) : r.value? reading.id = reading.value := by
  rw [value?, h.find?_of_mem hmem, Option.bind_some]

theorem WellFormed.map_fold_ids {r : Readings} (h : r.WellFormed) :
    r.ids.map fold = r.entries.map (·.key) := by
  rw [ids, List.map_map]
  refine List.map_congr_left fun reading hmem => ?_
  rw [Function.comp_apply, fold, h.trimmed reading hmem, h.key reading hmem]

theorem WellFormed.contains_iff {r : Readings} (h : r.WellFormed) (name : String) :
    r.contains name = true ↔ fold name ∈ r.ids.map fold := by
  rw [h.map_fold_ids, contains, find?, List.find?_isSome, List.mem_map]
  simp only [decide_eq_true_eq]

theorem get?_eq (r : Readings) (name : String) :
    r.get? name = if r.contains name then some (r.value? name) else none := by
  rw [get?, contains, value?]
  cases r.find? name <;> rfl

theorem WellFormed.items_eq {r : Readings} (h : r.WellFormed) :
    r.items = r.ids.map fun id => (id, r.value? id) := by
  rw [items, ids, List.map_map]
  refine List.map_congr_left fun reading hmem => ?_
  rw [Function.comp_apply, h.value?_of_mem hmem]

theorem WellFormed.present_eq {r : Readings} (h : r.WellFormed) :
    r.present = r.ids.filterMap fun id => (r.value? id).map (id, ·) := by
  rw [present, ids, List.filterMap_map]
  refine List.filterMap_congr fun reading hmem => ?_
  rw [Function.comp_apply, h.value?_of_mem hmem]

/-! ## What a mapping makes -/

/-- The entries of a mapping that name a KPI; a blank name names none. -/
def naming (entries : List (String × Datum)) : List (String × Datum) :=
  entries.filter fun e => trim e.1 ≠ ""

/-- The entries of a mapping for the KPI that a name addresses. -/
def entriesFor (entries : List (String × Datum)) (name : String) : List (String × Datum) :=
  (naming entries).filter fun e => fold e.1 = fold name

/-- Readings that are the map of some entries. -/
structure Maps (r : Readings) (entries : List (String × Datum)) : Prop where
  /-- The number of a KPI is that of its last entry. -/
  value : ∀ name e, (entriesFor entries name).getLast? = some e → e.2.number? = .ok (r.value? name)
  /-- A KPI without an entry has no number. -/
  absent : ∀ name, entriesFor entries name = [] → r.value? name = none
  /-- The spelling of a KPI is that of its first entry. -/
  id : ∀ name, r.id? name = (entriesFor entries name).head?.map fun e => trim e.1
  /-- Each KPI is listed once, in the order of the first entries. -/
  ids : r.ids.map fold = ((naming entries).map fun e => fold e.1).eraseDups
  /-- A listed id addresses the KPI that it is listed for. -/
  addressed : ∀ id ∈ r.ids, r.id? id = some id
  /-- The items are the listed ids with what they address. -/
  items : r.items = r.ids.map fun id => (id, r.value? id)
  /-- Those with a number are the listed ids that address one. -/
  present : r.present = r.ids.filterMap fun id => (r.value? id).map (id, ·)
  /-- A name has a number if it addresses one. -/
  hasValue : ∀ name, r.hasValue name = true ↔ ∃ x, r.value? name = some x
  /-- A name is contained if one of the listed ids is a spelling of it. -/
  contains : ∀ name, r.contains name = true ↔ fold name ∈ r.ids.map fold
  /-- Looking up what is contained gives its number or absence. -/
  get : ∀ name, r.get? name = if r.contains name then some (r.value? name) else none
  /-- The size is the number of the listed ids. -/
  size : r.size = r.ids.length

theorem lower_trim (s : String) : lower (trim s) = fold s := by
  unfold fold
  rfl

theorem map_snd_lastReading (named : List (String × Option Float)) :
    (lastReading named).map Prod.snd = named.getLast?.map Prod.snd := by
  induction named using List.reverseRecOn with
  | nil => rfl
  | append_singleton named m _ => rw [lastReading_concat, List.getLast?_concat]; rfl

theorem keys_recordAll (entries : List (String × Option Float)) :
    (recordAll entries).map (·.key) = (entries.map fun e => lower e.1).eraseDups := by
  induction entries using List.reverseRecOn with
  | nil => rfl
  | append_singleton entries e ih =>
    rw [recordAll, List.foldl_append, List.foldl_cons, List.foldl_nil, keys_record, ← recordAll,
      ih, List.map_append, List.map_singleton, eraseDups_concat]
    simp only [List.mem_eraseDups, List.contains_eq_mem, decide_eq_true_eq]

theorem filter_named (entries : List (String × Datum)) (name : String) :
    (named entries).filter (fun e => lower e.1 = fold name) =
      (entriesFor entries name).map fun e => (trim e.1, e.2.finiteNumber) := by
  rw [named, List.filter_map, entriesFor, naming]
  refine congrArg _ (List.filter_congr fun e _ => ?_)
  rw [Function.comp_apply, lower_trim]

/-- The reading that a name addresses has the spelling of the first entry for it and the number of
the last one. -/
theorem find?_named (entries : List (String × Datum)) (name : String) :
    (find? ⟨recordAll (named entries)⟩ name).map (fun r => (r.id, r.value)) =
      lastReading ((entriesFor entries name).map fun e => (trim e.1, e.2.finiteNumber)) := by
  rw [find?, find?_recordAll, filter_named]

theorem id?_named (entries : List (String × Datum)) (name : String) :
    id? ⟨recordAll (named entries)⟩ name =
      (entriesFor entries name).head?.map fun e => trim e.1 := by
  have hid := congrArg (Option.map Prod.fst) (find?_named entries name)
  rw [map_fst_lastReading, Option.map_map, List.map_map, List.head?_map] at hid
  exact hid

theorem get?_named (entries : List (String × Datum)) (name : String) :
    get? ⟨recordAll (named entries)⟩ name =
      (entriesFor entries name).getLast?.map fun e => e.2.finiteNumber := by
  have hvalue := congrArg (Option.map Prod.snd) (find?_named entries name)
  rw [map_snd_lastReading, Option.map_map, List.getLast?_map, Option.map_map] at hvalue
  exact hvalue

theorem value?_eq_join (r : Readings) (name : String) : r.value? name = (r.get? name).join := by
  rw [value?, get?]
  cases r.find? name <;> rfl

theorem map_fold_naming (entries : List (String × Datum)) :
    ((named entries).map fun e => lower e.1) = (naming entries).map fun e => fold e.1 := by
  rw [named, ← naming, List.map_map]
  exact List.map_congr_left fun e _ => lower_trim e.1

/-- A mapping whose data are in range makes readings, and they are the map of its entries. -/
theorem ofEntries_maps {entries : List (String × Datum)}
    (h : ∀ e ∈ entries, trim e.1 ≠ "" → ∃ x, e.2.number? = .ok x) :
    ∃ r, ofEntries entries = .ok r ∧ r.Maps entries := by
  have hnumber : ∀ e ∈ entries, trim e.1 ≠ "" → e.2.number? = .ok e.2.finiteNumber := by
    intro e he hne
    obtain ⟨x, hx⟩ := h e he hne
    rw [hx, Datum.finiteNumber_eq hx]
  have hread := ofEntries_of_numbers hnumber
  have hwell := WellFormed.ofEntries hread
  refine ⟨⟨recordAll (named entries)⟩, hread, ?_, ?_, id?_named entries, ?_,
    fun id hid => hwell.id?_of_mem hid, hwell.items_eq, hwell.present_eq,
    fun name => Option.isSome_iff_exists, hwell.contains_iff, get?_eq _, ?_⟩
  · intro name e hlast
    have hmem : e ∈ naming entries := List.mem_of_mem_filter (List.mem_of_getLast? hlast)
    obtain ⟨hmem, hne⟩ := List.mem_filter.1 hmem
    rw [value?_eq_join, get?_named, hlast, hnumber e hmem (of_decide_eq_true hne)]
    rfl
  · intro name hnone
    rw [value?_eq_join, get?_named, hnone]
    rfl
  · rw [hwell.map_fold_ids, keys_recordAll, map_fold_naming]
  · rw [size, Readings.ids, List.length_map]

/-- A blank name, a number out of range under it, and three spellings of one KPI of which the middle
one takes the number away and the last one gives another. -/
theorem ofEntries_maps_respelled :
    let entries := [("Revenue", .int 120), (" costs", .text "1,090.5"), ("REVENUE ", .text "n/a"),
      ("   ", .int (10 ^ 400)), ("revenue", .float 95.0), ("Staff", .bool true)]
    (∀ e ∈ entries, trim e.1 ≠ "" → ∃ x, e.2.number? = .ok x) ∧
      ∃ r, ofEntries entries = .ok r ∧ r.Maps entries := by
  have h : ∀ e ∈ [("Revenue", Datum.int 120), (" costs", .text "1,090.5"),
      ("REVENUE ", .text "n/a"), ("   ", .int (10 ^ 400)), ("revenue", .float 95.0),
      ("Staff", .bool true)],
      trim e.1 ≠ "" → e.2.number?.isOk = true := by
    decide
  have hok := fun e he hne => exists_eq_ok (h e he hne)
  exact ⟨hok, ofEntries_maps hok⟩

end Readings

end Scorecard
