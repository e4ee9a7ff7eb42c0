import Scorecard.Proofs.Decimal.Range
import Scorecard.Proofs.Sheet.Readings

/-!
# Readings of a map of cells

A cell of any kind has a finite number or none, except for a whole number that is out of the range
of doubles and for a collection with a whole number that is too long to be written: they end the
reading of the whole map, unless their id is blank. A map without such a cell is read cell by cell,
and all of its numbers are finite.
-/

namespace Scorecard

open Text (fold lower trim)

namespace Datum

/-- What ends the reading of a datum as a number. -/
inductive NumberFault : Datum → Fault → Prop
  /-- A whole number is out of the range of doubles. -/
  | outOfRange {n : Int} (h : Decimal.overflowBound ≤ n.natAbs) :
    NumberFault (int n) .integerTooLarge
  /-- A collection has a whole number that is too long to be written. -/
  | unwritable {d : Datum} (hcollection : ¬ d.IsScalar) (h : d.hasText = false) :
    NumberFault d .numberTooLong

theorem number?_eq_error_iff {d : Datum} {f : Fault} :
    d.number? = .error f ↔ NumberFault d f := by
  constructor
  · intro h
    cases d with
    | int n =>
      rw [number?] at h
      split at h
      · cases h
      · rename_i hinfinite
        cases h
        rw [Decimal.ofInt_isFinite_iff, Nat.not_lt] at hinfinite
        exact .outOfRange hinfinite
    | list items =>
      obtain ⟨htext, rfl⟩ := written_eq_error_iff.1 (map_eq_error_iff.1 h)
      exact .unwritable id htext
    | record fields =>
      obtain ⟨htext, rfl⟩ := written_eq_error_iff.1 (map_eq_error_iff.1 h)
      exact .unwritable id htext
    | _ => cases h
  · intro h
    cases h with
    | @outOfRange n h =>
      exact if_neg fun hfinite => Nat.not_le.2 ((Decimal.ofInt_isFinite_iff n).1 hfinite) h
    | unwritable hcollection htext =>
      cases d with
      | list items => exact map_eq_error_iff.2 (written_eq_error_iff.2 ⟨htext, rfl⟩)
      | record fields => exact map_eq_error_iff.2 (written_eq_error_iff.2 ⟨htext, rfl⟩)
      | _ => exact absurd trivial hcollection

/-- Whether a datum is no whole number out of the range of doubles, and no collection with a whole
number that is too long to be written. -/
def InRange (d : Datum) : Prop :=
  (∀ n, d = int n → n.natAbs < Decimal.overflowBound) ∧ (¬ d.IsScalar → d.hasText = true)

theorem inRange_iff {d : Datum} : d.InRange ↔ ∀ f, ¬ NumberFault d f := by
  constructor
  · rintro ⟨hrange, htext⟩ f h
    cases h with
    | outOfRange h => exact Nat.not_le.2 (hrange _ rfl) h
    | unwritable hcollection h =>
      rw [htext hcollection] at h
      cases h
  · intro h
    refine ⟨?_, fun hcollection => ?_⟩
    · rintro n rfl
      exact Nat.not_le.1 fun hbound => h _ (.outOfRange hbound)
    · by_contra htext
      exact h _ (.unwritable hcollection (Bool.eq_false_iff.2 htext))

theorem number?_of_inRange {d : Datum} (h : d.InRange) : d.number? = .ok d.finiteNumber := by
  obtain ⟨x, hx⟩ : ∃ x, d.number? = .ok x :=
    exists_ok_iff_forall_ne_error.2 fun f hf => inRange_iff.1 h f (number?_eq_error_iff.1 hf)
  rw [hx, finiteNumber_eq hx]

/-- Cleaning a cell makes a text of a text, and leaves everything else as it is. -/
theorem numberFault_clean (d : Datum) (f : Fault) : NumberFault (clean d) f ↔ NumberFault d f := by
  cases d with
  | text s =>
    have htext : ¬ NumberFault (text s) f := by
      intro h
      cases h with
      | unwritable hcollection => exact hcollection trivial
    refine iff_of_false (fun h => ?_) htext
    rw [← number?_eq_error_iff, clean, number?_cleanText] at h
    cases h
  | _ => exact Iff.rfl

end Datum

namespace Readings

/-- What ends the reading of a map at an entry: its datum does, unless its id is blank. -/
def EntryFault (e : String × Datum) (f : Fault) : Prop :=
  trim e.1 ≠ "" ∧ e.2.NumberFault f

theorem add_eq_error_iff (r : Readings) (name : String) (raw : Datum) (f : Fault) :
    r.add name raw = .error f ↔ EntryFault (name, raw) f := by
  by_cases hblank : trim name = ""
  · rw [add_of_blank _ _ hblank]
    exact iff_of_false (by simp) fun h => h.1 hblank
  · rw [add_of_ne _ _ hblank, map_eq_error_iff, Datum.number?_eq_error_iff]
    exact (and_iff_right hblank).symm

/-- The first entry with a fault ends the reading, whatever was read before. -/
theorem addAll_eq_error_iff {entries : List (String × Datum)} {f : Fault} (start : Readings) :
    entries.foldlM (fun r (name, raw) => Readings.add r name raw) start = .error f ↔
      FirstFault EntryFault entries f := by
  induction entries generalizing start with
  | nil =>
    refine iff_of_false (by simp [pure, Except.pure]) fun h => ?_
    cases h
  | cons e entries ih =>
    obtain ⟨name, raw⟩ := e
    rw [List.foldlM_cons, bind_eq_error_iff, add_eq_error_iff]
    constructor
    · rintro (he | ⟨r, hr, h⟩)
      · exact .here he entries
      · refine .later (fun f' he => ?_) ((ih r).1 h)
        cases hr.symm.trans ((add_eq_error_iff start name raw f').2 he)
    · intro h
      cases h with
      | here he => exact .inl he
      | later he h =>
        obtain ⟨r, hr⟩ := exists_ok_iff_forall_ne_error.2 fun f' hf' =>
          he f' ((add_eq_error_iff start name raw f').1 hf')
        exact .inr ⟨r, hr, (ih r).2 h⟩

theorem ofEntries_eq_error_iff (entries : List (String × Datum)) (f : Fault) :
    ofEntries entries = .error f ↔ FirstFault EntryFault entries f :=
  addAll_eq_error_iff empty

/-- What the readings of a map hold. -/
structure Hold (entries : List (String × Datum)) (r : Readings) : Prop where
  /-- Every number is finite. -/
  finite : ∀ reading ∈ r.entries, ∀ x, reading.value = some x → x.isFinite = true
  /-- Each KPI has its first spelling and the number of its last entry. -/
  reads : ∀ name, (r.find? name).map (fun reading => (reading.id, reading.value)) =
    lastReading ((named entries).filter fun e => fold e.1 = fold name)

theorem hold_recordAll {entries : List (String × Datum)}
    (h : ofEntries entries = .ok ⟨recordAll (named entries)⟩) :
    Hold entries ⟨recordAll (named entries)⟩ where
  finite := fun reading hmem => (sound_ofEntries h reading hmem).finite
  reads := by
    intro name
    have hnamed : (named entries).filter (fun e => lower e.1 = fold name) =
        (named entries).filter fun e => fold e.1 = fold name := by
      refine List.filter_congr fun e he => ?_
      obtain ⟨e', -, rfl⟩ := List.mem_map.1 he
      rw [fold, fold, Text.trim_trim]
    rw [find?, find?_recordAll, hnamed]

/-- Whether all cells under an id are in range. -/
def AllInRange (cells : List (String × Datum)) : Prop :=
  ∀ cell ∈ cells, trim cell.1 ≠ "" → cell.2.InRange

theorem allInRange_iff {cells : List (String × Datum)} :
    AllInRange cells ↔ ∀ f, ¬ FirstFault EntryFault cells f := by
  rw [← not_exists, exists_firstFault_iff]
  simp only [AllInRange, Datum.inRange_iff, EntryFault, not_exists, not_and]
  exact ⟨fun h cell hcell f hne => h cell hcell hne f, fun h cell hcell hne f => h cell hcell f hne⟩

/-- A map is read exactly if all of its entries are in range. -/
theorem ofEntries_reads (entries : List (String × Datum)) :
    (∃ r, ofEntries entries = .ok r ∧ Hold entries r) ↔ AllInRange entries := by
  constructor
  · rintro ⟨r, hread, -⟩
    refine allInRange_iff.2 fun f hf => ?_
    rw [(ofEntries_eq_error_iff entries f).2 hf] at hread
    cases hread
  · intro h
    have hread : ofEntries entries = .ok ⟨recordAll (named entries)⟩ :=
      ofEntries_of_numbers fun e he hne => Datum.number?_of_inRange (h e he hne)
    exact ⟨_, hread, hold_recordAll hread⟩

/-- The entries that the cells of a map make. -/
def cleaned (cells : List (String × Datum)) : List (String × Datum) :=
  cells.map fun cell => (cell.1, clean cell.2)

theorem firstFault_cleaned_iff (cells : List (String × Datum)) (f : Fault) :
    FirstFault EntryFault (cleaned cells) f ↔ FirstFault EntryFault cells f := by
  have hfault : (fun cell : String × Datum => EntryFault (cell.1, clean cell.2)) = EntryFault := by
    funext cell f
    exact propext (and_congr_right' (Datum.numberFault_clean cell.2 f))
  rw [cleaned, firstFault_map_iff, hfault]

/-- A map of cells is read exactly if all of its cells are in range, and ends otherwise with the
fault of the first one under an id that is not; and the same holds of the map of their data. Then
every number is finite, and each KPI has the number of its last cell. -/
theorem cells_read_iff_allInRange (cells : List (String × Datum)) :
    ((∃ r, ofEntries cells = .ok r ∧ Hold cells r) ↔ AllInRange cells) ∧
      (∀ f, ofEntries cells = .error f ↔ FirstFault EntryFault cells f) ∧
      ((∃ r, ofCells cells = .ok r ∧ Hold (cleaned cells) r) ↔ AllInRange cells) ∧
      ∀ f, ofCells cells = .error f ↔ FirstFault EntryFault cells f := by
  have hfails (f : Fault) : ofCells cells = .error f ↔ FirstFault EntryFault cells f := by
    rw [← firstFault_cleaned_iff]
    exact ofEntries_eq_error_iff (cleaned cells) f
  have hcleaned : AllInRange (cleaned cells) ↔ AllInRange cells := by
    simp only [allInRange_iff, firstFault_cleaned_iff]
  exact ⟨ofEntries_reads cells, ofEntries_eq_error_iff cells,
    (ofEntries_reads (cleaned cells)).trans hcleaned, hfails⟩

/-- The least whole number out of range ends the reading of its map. -/
theorem ofCells_at_overflowBound : ¬ ∀ cells : List (String × Datum),
    (∀ cell ∈ cells, cell.2.IsScalar) → ∃ r, ofCells cells = .ok r ∧
      ∀ reading ∈ r.entries, ∀ x, reading.value = some x → x.isFinite = true := by
  intro h
  let cells : List (String × Datum) := [("Revenue", .int Decimal.overflowBound)]
  have hbeyond : EntryFault ("Revenue", .int Decimal.overflowBound) .integerTooLarge :=
    ⟨by decide, .outOfRange (Int.natAbs_natCast _).ge⟩
  have herror : ofCells cells = .error .integerTooLarge :=
    (addAll_eq_error_iff empty).2 (.here hbeyond [])
  obtain ⟨r, hr, -⟩ := h cells (List.forall_mem_singleton.2 trivial)
  rw [herror] at hr
  cases hr

end Readings

end Scorecard
