import Scorecard.Proofs.Assoc
import Scorecard.Proofs.Sheet.Load

/-!
# Names and order of columns

A sheet means the same whatever the order of its columns and however their names are spelled, as
long as the normal forms of the names are kept and a row has each of them once. Cells are found by
the normal form of the column's name, and numbered cells are put in order by their numbers.
-/

namespace Scorecard

/-- The cells of a row by the normal form of their column names. -/
def normalFields (fields : List (Datum × Datum)) : List (String × Datum) :=
  fields.map fun f => (Row.columnKey f.1.toText, f.2)

/-- Two fields of a row in one column, with the same cell. The name of the second can be written if
that of the first can. -/
structure SameColumn (a b : Datum × Datum) : Prop where
  /-- The names have one normal form. -/
  key : Row.columnKey a.1.toText = Row.columnKey b.1.toText
  /-- The new name has a text if the old one has. -/
  hasText : a.1.hasText = true → b.1.hasText = true
  /-- The cells are the same. -/
  cell : a.2 = b.2

/-- Rows that differ in the order of their columns and in the spelling of the columns' names. -/
inductive Datum.Rearranged : Datum → Datum → Prop
  /-- The columns are put in another order, and then their names are spelled otherwise. -/
  | intro {fields moved fields' : List (Datum × Datum)} (hmoved : fields.Perm moved)
    (hspelled : List.Forall₂ SameColumn moved fields')
    (hdistinct : (fields.map fun f => Row.columnKey f.1.toText).Nodup) :
    Rearranged (.record fields) (.record fields')

theorem normalFields_of_spelled {fields fields' : List (Datum × Datum)}
    (h : List.Forall₂ SameColumn fields fields') : normalFields fields = normalFields fields' := by
  induction h with
  | nil => rfl
  | cons hab _ ih =>
    rw [normalFields, normalFields, List.map_cons, List.map_cons, hab.key, hab.cell]
    exact congrArg _ ih

/-! ## Cells -/

namespace Row

/-- Rows at the same place with the same cells in another order, each under its own name. -/
structure SameUpToOrder (row row' : Row) : Prop where
  /-- The rows are at one place. -/
  position : row.position = row'.position
  /-- They have the same cells. -/
  cells : row.cells.Perm row'.cells
  /-- No two cells are under one name. -/
  distinct : (row.cells.map Prod.fst).Nodup

theorem numberedLe_iff {a b : Nat × String} :
    numberedLe a b = true ↔ a.1 < b.1 ∨ a.1 = b.1 ∧ a.2 ≤ b.2 := by
  simp [numberedLe]

theorem numberedLe_trans (a b c : Nat × String) (hab : numberedLe a b = true)
    (hbc : numberedLe b c = true) : numberedLe a c = true := by
  rw [numberedLe_iff] at *
  rcases hab with hab | ⟨hab, hab'⟩ <;> rcases hbc with hbc | ⟨hbc, hbc'⟩
  · exact .inl (Nat.lt_trans hab hbc)
  · exact .inl (hbc ▸ hab)
  · exact .inl (hab ▸ hbc)
  · exact .inr ⟨hab.trans hbc, String.le_trans hab' hbc'⟩

theorem numberedLe_total (a b : Nat × String) : (numberedLe a b || numberedLe b a) = true := by
  rw [Bool.or_eq_true, numberedLe_iff, numberedLe_iff]
  rcases Nat.lt_trichotomy a.1 b.1 with h | h | h
  · exact .inl (.inl h)
  · rcases String.le_total a.2 b.2 with h' | h'
    · exact .inl (.inr ⟨h, h'⟩)
    · exact .inr (.inr ⟨h.symm, h'⟩)
  · exact .inr (.inl h)

theorem numberedLe_antisymm {a b : Nat × String} (hab : numberedLe a b = true)
    (hba : numberedLe b a = true) : a = b := by
  rw [numberedLe_iff] at hab hba
  have hnumber : a.1 = b.1 := by omega
  refine Prod.ext hnumber (String.le_antisymm ?_ ?_)
  · exact (hab.resolve_left (by omega)).2
  · exact (hba.resolve_left (by omega)).2

/-- The order of numbered cells does not depend on the order in which they are found. -/
theorem mergeSort_numbered_perm {found found' : List (Nat × String)} (h : found.Perm found') :
    found.mergeSort numberedLe = found'.mergeSort numberedLe := by
  refine List.Perm.eq_of_pairwise (fun a b _ _ => numberedLe_antisymm)
    (List.pairwise_mergeSort numberedLe_trans numberedLe_total found)
    (List.pairwise_mergeSort numberedLe_trans numberedLe_total found') ?_
  exact (List.mergeSort_perm _ _).trans (h.trans (List.mergeSort_perm _ _).symm)

theorem SameUpToOrder.sameCells {row row' : Row} (h : row.SameUpToOrder row') :
    row.SameCells row' where
  text? := text?_congr fun name => by rw [datum, datum, Assoc.lookup_perm h.cells h.distinct]
  numbered := by
    intro stem texts hread
    obtain ⟨found, hfound, hsorted⟩ := bind_eq_ok_iff.1 hread
    obtain ⟨found', hfound', hperm⟩ := mapM_perm h.cells hfound
    refine bind_eq_ok_iff.2 ⟨found', hfound', ?_⟩
    rw [← hsorted, mergeSort_numbered_perm (hperm.filterMap id)]

/-- A row with distinct columns has all of its cells, in their order. -/
theorem cells_ofFields {fields : List (Datum × Datum)} (position : Nat)
    (h : (fields.map fun f => columnKey f.1.toText).Nodup) :
    (ofFields position fields).cells = normalFields fields := by
  refine Assoc.ofList_of_nodup ?_
  rwa [List.map_map]

/-- The rows of data that are rearranged have the same cells. -/
theorem ofDatum_rearranged {position : Nat} {d d' : Datum} (h : d.Rearranged d') {row : Row}
    (hrow : ofDatum position d = .ok row) :
    ∃ row', ofDatum position d' = .ok row' ∧ row.SameUpToOrder row' := by
  cases h with
  | @intro fields moved fields' hmoved hspelled hdistinct =>
    obtain ⟨_, hfields, hnames, rfl⟩ := ofDatum_eq_ok_iff.1 hrow
    obtain rfl := Datum.record.inj hfields
    have hnames' : ∀ f ∈ fields', f.1.hasText = true :=
      forall_mem_of_forall₂ hspelled (fun f hf => hnames f (hmoved.mem_iff.2 hf))
        fun _ _ hab => hab.hasText
    have hperm : (normalFields fields).Perm (normalFields fields') := by
      rw [← normalFields_of_spelled hspelled]
      exact hmoved.map _
    have hkeys : ((normalFields fields).map Prod.fst).Nodup := by
      rwa [normalFields, List.map_map]
    have hdistinct' : (fields'.map fun f => columnKey f.1.toText).Nodup := by
      have hkeys' := (hperm.map Prod.fst).nodup hkeys
      rwa [normalFields, List.map_map] at hkeys'
    have hcells := cells_ofFields position hdistinct
    have hcells' := cells_ofFields position hdistinct'
    refine ⟨_, ofDatum_eq_ok_iff.2 ⟨fields', rfl, hnames', rfl⟩, rfl, ?_, ?_⟩
    · rwa [hcells, hcells']
    · rwa [hcells]

end Row

/-! ## Sheets -/

section Reader

variable {α : Type} {names : List String} {source : Source} {cause : Cause}
  {read : Row → Except Fault (RowResult α)}

theorem RowReader.read_sameCells (h : RowReader names source cause read) {row row' : Row}
    (hrows : row.SameUpToOrder row') {result : RowResult α} (hread : read row = .ok result) :
    read row' = .ok result := by
  have hcells := hrows.sameCells
  by_cases hid : row.text? names = .ok none
  · have hid' : row'.text? names = .ok none := by rwa [← hcells.text?]
    have href : row.ref = row'.ref := by rw [Row.ref, Row.ref, hrows.position]
    rw [h.unnamed row' hid', ← href, ← h.unnamed row hid, hread]
  · exact h.named row row' hcells hid result hread

theorem forall₂_zipIdx {R : α → α → Prop} {xs ys : List α} (h : List.Forall₂ R xs ys) (k : Nat) :
    List.Forall₂ (fun a b => R a.1 b.1 ∧ a.2 = b.2) (xs.zipIdx k) (ys.zipIdx k) := by
  induction h generalizing k with
  | nil => exact .nil
  | cons hxy _ ih => exact .cons ⟨hxy, rfl⟩ (ih (k + 1))

theorem RowReader.readRow_rearranged (h : RowReader names source cause read) {e e' : Datum × Nat}
    (hrows : e.1.Rearranged e'.1 ∧ e.2 = e'.2) {result : RowResult α}
    (hread : readRow read e = .ok result) : readRow read e' = .ok result := by
  obtain ⟨row, hrow, hread⟩ := bind_eq_ok_iff.1 hread
  rw [hrows.2] at hrow
  obtain ⟨row', hrow', hsame⟩ := Row.ofDatum_rearranged hrows.1 hrow
  exact bind_eq_ok_iff.2 ⟨row', hrow', h.read_sameCells hsame hread⟩

/-- A sheet with rearranged columns is loaded as the sheet is. -/
theorem RowReader.load_rearranged (h : RowReader names source cause read) {rows rows' : List Datum}
    (hrows : List.Forall₂ Datum.Rearranged rows rows') {l : Load α}
    (hload : loadRows read rows = .ok l) : loadRows read rows' = .ok l := by
  obtain ⟨results, hresults, rfl⟩ := loadRows_eq_ok_iff.1 hload
  obtain ⟨results', hresults', hsame⟩ := mapM_forall₂ (S := Eq) (forall₂_zipIdx hrows 1)
    (fun _ _ result hrow hread => ⟨result, h.readRow_rearranged hrow hread, rfl⟩)
    (mapM_eq_ok_iff.2 hresults)
  obtain rfl := List.forall₂_eq_eq_eq ▸ hsame
  exact loadRows_eq_ok_iff.2 ⟨results, mapM_eq_ok_iff.1 hresults', rfl⟩

end Reader

/-- No sheet of the configuration means anything else when its columns are put in another order and
their names are spelled otherwise. -/
theorem configuration_rearranged {rows rows' : List Datum}
    (h : List.Forall₂ Datum.Rearranged rows rows') :
    (∀ l, loadKpis rows = .ok l → loadKpis rows' = .ok l) ∧
    (∀ tolerance l, loadValidationRules tolerance rows = .ok l →
      loadValidationRules tolerance rows' = .ok l) ∧
    (∀ l, loadBenchmarks rows = .ok l → loadBenchmarks rows' = .ok l) ∧
    ∀ l, loadInsightRules rows = .ok l → loadInsightRules rows' = .ok l :=
  ⟨fun _ => Kpi.rowReader.load_rearranged h,
    fun tolerance _ => (ValidationRule.rowReader tolerance).load_rearranged h,
    fun _ => Benchmark.rowReader.load_rearranged h,
    fun _ => InsightRule.rowReader.load_rearranged h⟩

/-- A row with numbered recommendations. -/
def adviceRow : List (Datum × Datum) :=
  [(.text "Rule ID", .text "R1"), (.text "recommendation_2", .text "second"),
    (.text "Recommendation 1", .text "first"), (.text "trigger", .text "dso:poor-")]

/-- The same row with its columns turned round and their names spelled otherwise. -/
def adviceRowRearranged : List (Datum × Datum) :=
  [(.text "TRIGGER", .text "dso:poor-"), (.text "recommendation-1", .text "first"),
    (.text "recommendation2", .text "second"), (.text " rule_id ", .text "R1")]

theorem adviceRow_rearranged :
    List.Forall₂ Datum.Rearranged [.record adviceRow] [.record adviceRowRearranged] ∧
      ∃ l, loadInsightRules [.record adviceRow] = .ok l ∧
        loadInsightRules [.record adviceRowRearranged] = .ok l := by
  have hspelled : List.Forall₂ SameColumn adviceRow.reverse adviceRowRearranged :=
    .cons ⟨by decide +kernel, id, rfl⟩ <| .cons ⟨by decide +kernel, id, rfl⟩ <|
      .cons ⟨by decide +kernel, id, rfl⟩ <| .cons ⟨by decide +kernel, id, rfl⟩ .nil
  have hrows : List.Forall₂ Datum.Rearranged [.record adviceRow] [.record adviceRowRearranged] :=
    .cons (.intro (List.reverse_perm adviceRow).symm hspelled (by decide)) .nil
  obtain ⟨l, hl⟩ : ∃ l, loadInsightRules [.record adviceRow] = .ok l :=
    exists_eq_ok (by decide +kernel)
  exact ⟨hrows, l, hl, (configuration_rearranged hrows).2.2.2 l hl⟩

end Scorecard
