import Scorecard.Proofs.Decimal.Positional
import Scorecard.Proofs.Sheet.Columns
import Scorecard.Proofs.Sheet.Faults
import Scorecard.Proofs.Text.Split

/-!
# Recommendations in a sheet

The recommendations of an insight rule are the items of one column or, if there are none, the cells
of columns with numbers, in the order of the numbers and not of the columns. Blanks are passed over
before the first five are taken, so none of the five is lost to a blank.
-/

namespace Scorecard

open Text (trim isSpace)

/-! ## Items of a cell -/

/-- The parts of a cell between separators, trimmed and without blanks. -/
def Datum.parts (sep : Char) : Datum → List String
  | .null => []
  | d => ((d.toText.toList.splitOn sep).map fun part => trim (String.ofList part)).filter (· ≠ "")

theorem Datum.spelled_of_mem_parts {sep : Char} {d : Datum} {s : String} (h : s ∈ d.parts sep) :
    trim s = s ∧ s ≠ "" := by
  unfold parts at h
  split at h
  · cases h
  · obtain ⟨hmem, hne⟩ := List.mem_filter.1 h
    obtain ⟨part, -, rfl⟩ := List.mem_map.1 hmem
    exact ⟨Text.trim_trim _, of_decide_eq_true hne⟩

theorem Datum.cell?_getD {d : Datum} {found : Option String} (hnull : d ≠ .null)
    (h : d.cell? = .ok found) : found.getD "" = trim d.toText := by
  cases found with
  | some s =>
    obtain ⟨-, -, hs, -⟩ := cell?_eq_some_iff.1 h
    exact hs.symm
  | none =>
    by_contra hne
    cases htext : d.hasText with
    | false =>
      rw [cell?_eq_error_iff.2 ⟨htext, rfl⟩] at h
      cases h
    | true =>
      rw [cell?_eq_some_iff.2 ⟨hnull, htext, rfl, Ne.symm hne⟩] at h
      cases h

namespace Row

theorem itemsOf_eq_filter (sep : Char) (s : String) :
    itemsOf sep s = ((Text.split sep s).map trim).filter (· ≠ "") := by
  rw [itemsOf, List.filter_map]
  refine congrArg _ (List.filter_congr fun part _ => ?_)
  rw [Bool.eq_iff_iff]
  simp [← Text.isBlank_iff]

/-- White space around a list of items does not count. -/
theorem itemsOf_trim {sep : Char} (hsep : isSpace sep = false) (s : String) :
    itemsOf sep (trim s) = itemsOf sep s := by
  rw [itemsOf_eq_filter, itemsOf_eq_filter, Text.map_trim_split_trim hsep]

theorem itemsOf_cell {sep : Char} (hsep : isSpace sep = false) {d : Datum} {found : Option String}
    (h : d.cell? = .ok found) : itemsOf sep (found.getD "") = d.parts sep := by
  by_cases hnull : d = .null
  · subst hnull
    obtain rfl := Except.ok.inj h
    rfl
  · rw [Datum.cell?_getD hnull h, itemsOf_trim hsep, itemsOf_eq_filter, Text.split,
      Text.pieces_eq_splitOn, List.map_map]
    unfold Datum.parts
    split
    · contradiction
    · rfl

theorem text?_singleton {row : Row} {name : String} :
    row.text? [name] = (row.datum name).cell? := by
  rw [text?]
  cases (row.datum name).cell? with
  | error f => rfl
  | ok found => cases found <;> rfl

theorem items_singleton_eq_ok_iff {row : Row} {name : String} {sep : Char} {items : List String} :
    row.items [name] sep = .ok items ↔
      ∃ found, (row.datum name).cell? = .ok found ∧ itemsOf sep (found.getD "") = items := by
  rw [Row.items, map_eq_ok_iff, text, text?_singleton]
  simp only [map_eq_ok_iff]
  constructor
  · rintro ⟨s, ⟨found, hfound, rfl⟩, rfl⟩
    exact ⟨found, hfound, rfl⟩
  · rintro ⟨found, hfound, rfl⟩
    exact ⟨_, ⟨found, hfound, rfl⟩, rfl⟩

section Columns

variable {fields : List (Datum × Datum)}

/-- The cell of a column is found by its name. -/
theorem datum_ofFields (position : Nat)
    (hdistinct : (fields.map fun f => columnKey f.1.toText).Nodup) {f : Datum × Datum}
    (hf : f ∈ fields) {name : String} (hname : columnKey f.1.toText = columnKey name) :
    (ofFields position fields).datum name = f.2 := by
  have hkeys : ((normalFields fields).map Prod.fst).Nodup := by
    rwa [normalFields, List.map_map]
  have hlookup : (normalFields fields).lookup (columnKey name) = some f.2 :=
    (Assoc.lookup_eq_some_iff_mem hkeys).2 (List.mem_map.2 ⟨f, hf, by rw [hname]⟩)
  rw [datum, cells_ofFields position hdistinct, hlookup]
  rfl

theorem datum_ofFields_of_absent (position : Nat)
    (hdistinct : (fields.map fun f => columnKey f.1.toText).Nodup) {name : String}
    (habsent : ∀ f ∈ fields, columnKey f.1.toText ≠ columnKey name) :
    (ofFields position fields).datum name = .null := by
  have hlookup : (normalFields fields).lookup (columnKey name) = none := by
    rw [List.lookup_eq_none_iff]
    intro e he
    obtain ⟨f, hf, rfl⟩ := List.mem_map.1 he
    simpa using Ne.symm (habsent f hf)
  rw [datum, cells_ofFields position hdistinct, hlookup]
  rfl

/-- The items in a column are the parts of its cell. -/
theorem items_ofFields (position : Nat)
    (hdistinct : (fields.map fun f => columnKey f.1.toText).Nodup) {sep : Char}
    (hsep : isSpace sep = false) {f : Datum × Datum} (hf : f ∈ fields) {name : String}
    (hname : columnKey f.1.toText = columnKey name) {items : List String}
    (h : (ofFields position fields).items [name] sep = .ok items) : items = f.2.parts sep := by
  obtain ⟨found, hfound, rfl⟩ := items_singleton_eq_ok_iff.1 h
  rw [datum_ofFields position hdistinct hf hname] at hfound
  exact itemsOf_cell hsep hfound

end Columns

end Row

/-! ## Numbered cells -/

namespace Text

theorem decimalValue?_of_isDigit {c : Char} (h : c.isDigit = true) :
    decimalValue? c = some (c.toNat - '0'.toNat) := by
  obtain ⟨hlower, hupper⟩ := Decimal.isDigit_iff.1 h
  have hfind : zeroDigits.find? (fun first => first ≤ c.toNat && c.toNat ≤ first + 9) =
      some 0x30 := by
    rw [zeroDigits, List.find?_cons_of_pos]
    simp only [Bool.and_eq_true, decide_eq_true_eq]
    omega
  rw [decimalValue?, hfind]
  rfl

/-- Plain digits denote the number that they denote in base ten. -/
theorem decimalNat?_of_isDigit {digits : List Char} (hne : digits ≠ [])
    (h : ∀ c ∈ digits, c.isDigit = true) :
    decimalNat? digits = some (Nat.ofDigitChars 10 digits 0) := by
  have hfold (cs : List Char) (n : Nat) (hcs : ∀ c ∈ cs, c.isDigit = true) :
      cs.foldl (fun n c => do some (10 * (← n) + (← decimalValue? c))) (some n) =
        some (Nat.ofDigitChars 10 cs n) := by
    induction cs generalizing n with
    | nil => rfl
    | cons c cs ih =>
      obtain ⟨hc, hcs⟩ := List.forall_mem_cons.1 hcs
      rw [List.foldl_cons, decimalValue?_of_isDigit hc, Nat.ofDigitChars_cons]
      exact ih _ hcs
  cases digits with
  | nil => exact absurd rfl hne
  | cons c cs => exact hfold (c :: cs) 0 h

end Text

namespace Row

/-- A field of a numbered column: a stem and plain digits are its name, and its cell is not blank.
It has the number of the digits and the text of the cell. -/
inductive Numbered (stem : String) : Datum × Datum → Nat × String → Prop
  /-- The digits need not be written without zeros in front. -/
  | intro {name cell : Datum} {digits : List Char} (hne : digits ≠ [])
    (hdigits : ∀ c ∈ digits, c.isDigit = true)
    (hname : (columnKey name.toText).toList = stem.toList ++ digits) (hthere : cell ≠ .null)
    (hnotBlank : trim cell.toText ≠ "") :
    Numbered stem (name, cell) (Nat.ofDigitChars 10 digits 0, trim cell.toText)

/-- If nothing but digits follows the stem in the name of a column, they are plain ones. -/
def PlainNumber (stem : String) (f : Datum × Datum) : Prop :=
  ∀ digits, (columnKey f.1.toText).toList = stem.toList ++ digits →
    (∀ c ∈ digits, Text.isDigit c = true) → ∀ c ∈ digits, c.isDigit = true

/-- Whether a number is plain can be seen from what follows the stem. -/
theorem plainNumber_of_drop {stem : String} {f : Datum × Datum}
    (h : (((columnKey f.1.toText).toList.drop stem.toList.length).all fun c =>
      c.isDigit || !Text.isDigit c) = true) : PlainNumber stem f := by
  intro digits hname hdigits c hc
  rw [hname, List.drop_left, List.all_eq_true] at h
  simpa [hdigits c hc] using h c hc

/-- A cell in a column with a plain number is read as it is numbered, if it can be read. -/
theorem eq_some_iff_numbered {stem : String} {f : Datum × Datum} (hplain : PlainNumber stem f)
    {view : Option (Nat × String)}
    (h : numberedCell? stem.toList (columnKey f.1.toText) f.2 = .ok view) (a : Nat × String) :
    view = some a ↔ Numbered stem f a := by
  constructor
  · rintro rfl
    obtain ⟨digits, ⟨hname, hne, hdigits⟩, hcell, hordinal⟩ := numberedCell?_eq_some_iff.1 h
    obtain ⟨hthere, -, htext, hnotBlank⟩ := Datum.cell?_eq_some_iff.1 hcell
    obtain ⟨-, hnumber⟩ := ordinal_eq_ok_iff.1 hordinal
    have hdigits := hplain digits hname hdigits
    rw [Text.decimalNat?_of_isDigit hne hdigits] at hnumber
    obtain ⟨name, cell⟩ := f
    obtain ⟨n, text⟩ := a
    obtain rfl := Option.some.inj hnumber
    obtain rfl := htext
    exact .intro hne hdigits hname hthere hnotBlank
  · rintro ⟨hne, hdigits, hname, hthere, hnotBlank⟩
    rename_i name cell digits
    have hnumbered : NumberedBy stem.toList (columnKey name.toText) digits := by
      refine ⟨hname, hne, fun c hc => ?_⟩
      rw [Text.isDigit, Text.decimalValue?_of_isDigit (hdigits c hc)]
      rfl
    rw [numberedCell?, ordinal?_eq_some_iff.2 hnumbered] at h
    obtain ⟨found, hfound, h⟩ := bind_eq_ok_iff.1 h
    have hfound' := Datum.cell?_getD hthere hfound
    cases found with
    | none => exact absurd hfound'.symm hnotBlank
    | some text =>
      obtain ⟨n, hn, rfl⟩ := map_eq_ok_iff.1 h
      obtain ⟨-, hnumber⟩ := ordinal_eq_ok_iff.1 hn
      rw [Text.decimalNat?_of_isDigit hne hdigits] at hnumber
      rw [Option.some.inj hnumber, ← hfound']
      rfl

theorem Numbered.rightUnique (stem : String) : Relator.RightUnique (Numbered stem) := by
  intro f a b ha hb
  cases ha with
  | intro hne hdigits hname =>
    cases hb with
    | intro hne' hdigits' hname' =>
      rw [hname, List.append_cancel_left_eq] at hname'
      rw [hname']

/-- What the numbered columns of a row hold, in order: lower numbers come first. Columns with one
number, such as `recommendation 1` and `recommendation 01`, are in the order of their texts. -/
structure NumberedInOrder (stem : String) (fields : List (Datum × Datum))
    (found : List (Nat × String)) : Prop where
  /-- Nothing is left out. -/
  gathers : Gathers (Numbered stem) fields found
  /-- The order is that of the numbers, and of the texts where the numbers are the same. -/
  sorted : found.Pairwise fun a b => a.1 < b.1 ∨ a.1 = b.1 ∧ a.2 ≤ b.2

theorem NumberedInOrder.unique {stem : String} {fields : List (Datum × Datum)}
    {found found' : List (Nat × String)} (h : NumberedInOrder stem fields found)
    (h' : NumberedInOrder stem fields found') : found = found' := by
  have hperm := h.gathers.perm_of_rightUnique (Numbered.rightUnique stem) h'.gathers
  refine List.Perm.eq_of_pairwise (fun a b _ _ hab hba => ?_) h.sorted h'.sorted hperm
  exact numberedLe_antisymm (numberedLe_iff.2 hab) (numberedLe_iff.2 hba)

theorem gathers_of_views {fields : List (Datum × Datum)} {stem : String}
    {views : List (Option (Nat × String))} (hplain : ∀ f ∈ fields, PlainNumber stem f)
    (hviews : (normalFields fields).mapM
      (fun (key, cell) => numberedCell? stem.toList key cell) = .ok views) :
    Gathers (Numbered stem) fields (views.filterMap id) := by
  have hread := List.forall₂_map_left_iff.1 (mapM_eq_ok_iff.1 hviews)
  refine .of_forall₂ (((List.forall₂_and_left fields views).2 ⟨hplain, hread⟩).imp ?_)
  rintro f view ⟨hplain, hview⟩
  exact eq_some_iff_numbered hplain hview

/-- Columns with plain numbers are read in the order of the numbers. -/
theorem numbered_ofFields (position : Nat) {fields : List (Datum × Datum)} {stem : String}
    (hstem : columnKey stem = stem)
    (hdistinct : (fields.map fun f => columnKey f.1.toText).Nodup)
    (hplain : ∀ f ∈ fields, PlainNumber stem f) {texts : List String}
    (h : (ofFields position fields).numbered stem = .ok texts) :
    ∃ found, NumberedInOrder stem fields found ∧ texts = found.map Prod.snd := by
  rw [numbered, hstem, cells_ofFields position hdistinct] at h
  obtain ⟨views, hviews, h⟩ := bind_eq_ok_iff.1 h
  refine ⟨(views.filterMap id).mergeSort numberedLe, ⟨?_, ?_⟩, (Except.ok.inj h).symm⟩
  · exact (gathers_of_views hplain hviews).perm (List.mergeSort_perm _ _).symm
  · exact (List.pairwise_mergeSort numberedLe_trans numberedLe_total _).imp numberedLe_iff.1

end Row

/-! ## Recommendations of a row -/

namespace InsightRule

/-- What a row recommends: the parts of the cell in the column of recommendations or, if there are
none, the texts of the numbered cells in order. -/
inductive Advised (fields : List (Datum × Datum)) : List String → Prop
  /-- One column lists them. -/
  | listed {f : Datum × Datum} (hf : f ∈ fields)
    (hname : Row.columnKey f.1.toText = "recommendations") (hlisted : f.2.parts '|' ≠ []) :
    Advised fields (f.2.parts '|')
  /-- Nothing is listed, and they are in numbered columns. -/
  | numbered {found : List (Nat × String)}
    (hunlisted : ∀ f ∈ fields, Row.columnKey f.1.toText = "recommendations" → f.2.parts '|' = [])
    (hfound : Row.NumberedInOrder "recommendation" fields found) :
    Advised fields (found.map Prod.snd)

/-- A row whose columns can be told apart and whose numbered recommendations have plain numbers. -/
structure PlainColumns (fields : List (Datum × Datum)) : Prop where
  /-- No two names have one normal form. -/
  distinct : (fields.map fun f => Row.columnKey f.1.toText).Nodup
  /-- Only plain digits number recommendations. -/
  plain : ∀ f ∈ fields, Row.PlainNumber "recommendation" f

/-- A row whose whole numbers have not too many digits: those in the names of its columns, in its
cells, and those that number its recommendations. -/
structure Legible (fields : List (Datum × Datum)) : Prop where
  /-- Names of columns can be written. -/
  name : ∀ f ∈ fields, f.1.hasText = true
  /-- Cells can be written. -/
  cell : ∀ f ∈ fields, f.2.hasText = true
  /-- Numbers of columns can be read. -/
  short : ∀ f ∈ fields, ∀ digits,
    (Row.columnKey f.1.toText).toList = "recommendation".toList ++ digits →
      digits.length ≤ Text.longestNumber

variable {fields : List (Datum × Datum)}

theorem columnKey_recommendations : Row.columnKey "recommendations" = "recommendations" := by
  decide

/-- What is advised is trimmed, and not blank. -/
theorem Advised.spelled {texts : List String} (h : Advised fields texts) :
    ∀ text ∈ texts, trim text = text ∧ text ≠ "" := by
  cases h with
  | listed hf hname hlisted =>
    intro text htext
    exact Datum.spelled_of_mem_parts htext
  | numbered hunlisted hfound =>
    rw [List.forall_mem_map]
    refine hfound.gathers.forall_mem fun f a ha => ?_
    cases ha with
    | intro _ _ _ _ hnotBlank => exact ⟨Text.trim_trim _, hnotBlank⟩

/-- What is read of a row is what it recommends. -/
theorem advised_of_recommendations (h : PlainColumns fields) {position : Nat} {texts : List String}
    (hread : (Row.ofFields position fields).recommendations = .ok texts) :
    Advised fields texts := by
  obtain ⟨items, hitems, hread⟩ := bind_eq_ok_iff.1 hread
  have hparts : ∀ f ∈ fields, Row.columnKey f.1.toText = "recommendations" →
      items = f.2.parts '|' := by
    intro f hf hname
    rw [← columnKey_recommendations] at hname
    exact Row.items_ofFields position h.distinct (by decide) hf hname hitems
  split at hread
  · obtain ⟨found, hfound, rfl⟩ :=
      Row.numbered_ofFields position columnKey_recommendation h.distinct h.plain hread
    exact .numbered (fun f hf hname => (hparts f hf hname).symm) hfound
  · rename_i hlisted
    obtain rfl := Except.ok.inj hread
    by_cases hcolumn : ∃ f ∈ fields, Row.columnKey f.1.toText = "recommendations"
    · obtain ⟨f, hf, hname⟩ := hcolumn
      rw [hparts f hf hname]
      refine .listed hf hname fun hnone => ?_
      exact hlisted ((hparts f hf hname).trans hnone)
    · -- Without the column there are no items.
      have habsent : (Row.ofFields position fields).datum "recommendations" = .null := by
        refine Row.datum_ofFields_of_absent position h.distinct fun f hf hname => ?_
        exact hcolumn ⟨f, hf, hname.trans columnKey_recommendations⟩
      obtain ⟨found, hfound, rfl⟩ := Row.items_singleton_eq_ok_iff.1 hitems
      rw [habsent] at hfound
      obtain rfl := Except.ok.inj hfound
      exact absurd rfl hlisted

/-- A row recommends one thing. -/
theorem Advised.unique (h : PlainColumns fields) {texts texts' : List String}
    (hadvised : Advised fields texts) (hadvised' : Advised fields texts') : texts = texts' := by
  cases hadvised with
  | @listed f hf hname hlisted =>
    cases hadvised' with
    | @listed f' hf' hname' _ =>
      obtain rfl := List.inj_on_of_nodup_map h.distinct hf hf' (hname.trans hname'.symm)
      rfl
    | numbered hunlisted' _ => exact absurd (hunlisted' f hf hname) hlisted
  | numbered hunlisted hfound =>
    cases hadvised' with
    | @listed f' hf' hname' hlisted' => exact absurd (hunlisted f' hf' hname') hlisted'
    | numbered _ hfound' => rw [hfound.unique hfound']

/-! ## Rules of a sheet -/

instance (row : Row) (names : List String) : Decidable (row.Fills names) :=
  match h : row.text? names with
  | .ok (some s) => isTrue ⟨s, h⟩
  | .ok none => isFalse fun ⟨_, hs⟩ => by cases h.symm.trans hs
  | .error _ => isFalse fun ⟨_, hs⟩ => by cases h.symm.trans hs

instance : DecidablePred Complete := fun row =>
  inferInstanceAs (Decidable (row.Fills ["id", "rule_id"] ∧ (∃ _, _ ∧ _) ∧ (∃ _, _ ∧ _) ∧
    row.Fills ["trigger"]))

/-- A row that can be read is kept if it is complete, and otherwise dropped. -/
theorem isSome_item?_iff {row : Row} {result : RowResult InsightRule} (h : ofRow row = .ok result) :
    result.item?.isSome = true ↔ Complete row := by
  rcases of_result h with ⟨hid, rfl⟩ | ⟨id, hid, ⟨cause, -, hincomplete, rfl⟩ |
    ⟨texts, priority, has, rule, hcomplete, -, -, -, -, rfl⟩⟩
  · refine iff_of_false (by simp [RowResult.item?]) ?_
    rintro ⟨⟨s, hs⟩, -⟩
    cases hid.symm.trans hs
  · exact iff_of_false (by simp [RowResult.item?]) hincomplete
  · exact iff_of_true rfl hcomplete

/-- Recommendations that are not blank are kept up to the limit. -/
theorem recommendations_of_advice {rule : InsightRule} {texts : List String}
    (hadvice : rule.advice = texts.take recommendationLimit)
    (h : ∀ text ∈ texts, trim text = text ∧ text ≠ "") :
    rule.recommendations = texts.take recommendationLimit := by
  have hnotBlank : (texts.take recommendationLimit).filter (fun s => !Text.isBlank s) =
      texts.take recommendationLimit := by
    rw [List.filter_eq_self]
    intro text htext
    obtain ⟨htrim, hne⟩ := h text (List.mem_of_mem_take htext)
    rw [Bool.not_eq_true', ← Bool.not_eq_true, Text.isBlank_iff, htrim]
    exact hne
  rw [recommendations, hadvice, hnotBlank, List.take_take, min_self]

theorem Legible.not_unwritable (h : Legible fields) (hcolumns : PlainColumns fields)
    (position : Nat) {names : List String} : ¬ (Row.ofFields position fields).Unwritable names := by
  have hdatum (name : String) : ((Row.ofFields position fields).datum name).hasText = true := by
    by_cases hcolumn : ∃ f ∈ fields, Row.columnKey f.1.toText = Row.columnKey name
    · obtain ⟨f, hf, hname⟩ := hcolumn
      rw [Row.datum_ofFields position hcolumns.distinct hf hname]
      exact h.cell f hf
    · rw [Row.datum_ofFields_of_absent position hcolumns.distinct fun f hf hname =>
        hcolumn ⟨f, hf, hname⟩]
      rfl
  intro hnames
  induction hnames with
  | here hname names =>
    rw [hdatum] at hname
    cases hname
  | later _ _ ih => exact ih

theorem Legible.not_numberedFault (h : Legible fields) (hcolumns : PlainColumns fields)
    {e : String × Datum} (he : e ∈ normalFields fields) {fault : Fault} :
    ¬ NumberedFault "recommendation".toList e fault := by
  rintro (⟨hnumbered, htext⟩ | ⟨hnumbered, hthere, hlong⟩ | ⟨hnumbered, hthere, hshort, hother⟩)
  all_goals
    obtain ⟨f, hf, hfield⟩ := List.mem_map.1 he
    obtain ⟨rfl, rfl⟩ := Prod.mk.inj hfield
  · rw [h.cell f hf] at htext
    cases htext
  · have hshort := h.short f hf _ hnumbered.name
    exact Nat.not_le.2 hlong ((List.takeWhile_prefix _).length_le.trans hshort)
  · obtain ⟨c, hc, hother⟩ := hother
    have hdigit := hcolumns.plain f hf _ hnumbered.name hnumbered.digit c hc
    rw [Text.decimalValue?_of_isDigit hdigit] at hother
    cases hother

theorem exists_load_of_legible {rows : List (List (Datum × Datum))}
    (h : ∀ fields ∈ rows, PlainColumns fields ∧ Legible fields) :
    ∃ l, loadInsightRules (rows.map .record) = .ok l := by
  have hread : ∀ e ∈ (rows.map Datum.record).zipIdx 1, ∃ result, readRow ofRow e = .ok result := by
    rintro ⟨d, position⟩ he
    obtain ⟨fields, hfields, rfl⟩ := List.mem_map.1 (List.fst_mem_of_mem_zipIdx he)
    obtain ⟨hcolumns, hlegible⟩ := h fields hfields
    have hrow : Row.ofDatum position (.record fields) = .ok (.ofFields position fields) :=
      Row.ofDatum_eq_ok_iff.2 ⟨fields, rfl, hlegible.name, rfl⟩
    rw [exists_ok_iff_forall_ne_error]
    intro fault hfault
    rcases bind_eq_error_iff.1 hfault with hfault | ⟨row, hrow', hfault⟩
    · cases hrow.symm.trans hfault
    · obtain rfl := Except.ok.inj (hrow.symm.trans hrow')
      rcases ofRow_eq_error_iff.1 hfault with ⟨⟨names, -, hnames⟩, -⟩ | ⟨-, -, hfirst⟩
      · exact hlegible.not_unwritable hcolumns position hnames
      · obtain ⟨e, he, hnumbered⟩ := hfirst.exists_mem
        rw [Row.cells_ofFields position hcolumns.distinct] at he
        exact hlegible.not_numberedFault hcolumns he hnumbered
  obtain ⟨results, hresults⟩ := exists_mapM_eq_ok hread
  exact ⟨_, loadRows_eq_ok_iff.2 ⟨results, mapM_eq_ok_iff.1 hresults, rfl⟩⟩

/-- A sheet whose columns have distinct names and plain numbers is loaded, as long as its whole
numbers have not too many digits. The rules of a sheet that is loaded are those of its complete
rows, in their order, and a rule has the first five of what its row recommends: these are the parts
of the column of recommendations or, if there are none, the cells of the numbered columns in
ascending order of the numbers. Blank ones do not count. -/
theorem loadInsightRules_recommends (rows : List (List (Datum × Datum))) :
    ((∀ fields ∈ rows, PlainColumns fields ∧ Legible fields) →
      ∃ l, loadInsightRules (rows.map .record) = .ok l) ∧
    ∀ l, loadInsightRules (rows.map .record) = .ok l →
      List.Forall₂ (fun fields (rule : InsightRule) => PlainColumns fields →
          (∃ texts, Advised fields texts) ∧
          ∀ texts, Advised fields texts → rule.recommendations = texts.take 5)
        (rows.filter fun fields => Complete (.ofFields 1 fields)) l.items := by
  refine ⟨exists_load_of_legible, fun l hl => ?_⟩
  obtain ⟨results, hresults, rfl⟩ := loadRows_eq_ok_iff.1 hl
  rw [List.zipIdx_map, List.forall₂_map_left_iff] at hresults
  have hcomplete : (rows.filter fun fields => Complete (.ofFields 1 fields)) =
      (rows.zipIdx 1).filterMap fun e =>
        if Complete (.ofFields 1 e.1) then some e.1 else none := by
    conv_lhs => rw [← List.zipIdx_map_fst 1 rows]
    rw [List.filter_map, ← List.filterMap_eq_filter, List.map_filterMap]
    refine List.filterMap_congr fun e _ => ?_
    by_cases h : Complete (.ofFields 1 e.1)
    · simp [h]
    · simp [h]
  rw [hcomplete]
  refine forall₂_filterMap hresults ?_
  rintro ⟨fields, position⟩ result hread
  obtain ⟨_, hofDatum, hrow⟩ := bind_eq_ok_iff.1 hread
  obtain ⟨_, hrecord, -, rfl⟩ := Row.ofDatum_eq_ok_iff.1 hofDatum
  obtain rfl := Datum.record.inj hrecord
  -- The place of a row does not decide about whether it is complete.
  have hplace : Complete (.ofFields position fields) ↔ Complete (.ofFields 1 fields) := Iff.rfl
  have hkept := (isSome_item?_iff hrow).trans hplace
  cases result with
  | dropped w =>
    rw [if_neg fun h => Bool.false_ne_true (hkept.2 h)]
    exact .none
  | kept rule warnings =>
    rw [if_pos (hkept.1 rfl)]
    rcases of_result hrow with ⟨-, h⟩ | ⟨id, -, ⟨cause, -, -, h⟩ |
      ⟨texts, priority, has, rule', -, htexts, hadvice, -, -, h⟩⟩
    · cases h
    · cases h
    · obtain ⟨rfl, -⟩ := RowResult.kept.inj h
      refine .some fun hplain => ?_
      have hadvised := advised_of_recommendations hplain htexts
      refine ⟨⟨texts, hadvised⟩, fun texts' hadvised' => ?_⟩
      rw [hadvised'.unique hplain hadvised]
      exact recommendations_of_advice hadvice hadvised.spelled

/-- A row whose numbered recommendations stand in no order, with a blank one between them. -/
def scatteredAdvice : List (Datum × Datum) :=
  [(.text "id", .text "R1"), (.text "recommendation_10", .text "tenth"),
    (.text "Recommendation 2", .text " second "), (.text "recommendation_3", .text " "),
    (.text "recommendation-1", .text "first"), (.text "recommendations", .text " | "),
    (.text "trigger", .text "dso:poor-")]

theorem scatteredAdvice_recommended : ∃ l, loadInsightRules [.record scatteredAdvice] = .ok l ∧
    l.items.map (·.recommendations) = [["first", "second", "tenth"]] := by
  have hnames : (scatteredAdvice.all fun f =>
      ((Row.columnKey f.1.toText).toList.drop "recommendation".toList.length).all fun c =>
        c.isDigit || !Text.isDigit c) = true := by decide
  have hplain : PlainColumns scatteredAdvice :=
    ⟨by decide, fun f hf => Row.plainNumber_of_drop (List.all_eq_true.1 hnames f hf)⟩
  have hviews : (normalFields scatteredAdvice).mapM
      (fun (key, cell) => Row.numberedCell? "recommendation".toList key cell) =
        .ok [none, some (10, "tenth"), some (2, "second"), none, some (1, "first"), none,
          none] := by
    decide
  -- The order is given and not computed, since merging does not reduce.
  have hfound : Row.NumberedInOrder "recommendation" scatteredAdvice
      [(1, "first"), (2, "second"), (10, "tenth")] :=
    ⟨(Row.gathers_of_views hplain.plain hviews).perm (by decide), by decide⟩
  have hadvised : Advised scatteredAdvice ["first", "second", "tenth"] :=
    .numbered (by decide) hfound
  obtain ⟨hloads, hrecommends⟩ := loadInsightRules_recommends [scatteredAdvice]
  have hlengths : (scatteredAdvice.all fun f =>
      (Row.columnKey f.1.toText).toList.length ≤ Text.longestNumber) = true := by decide
  have hlegible : Legible scatteredAdvice := by
    refine ⟨by decide, by decide, fun f hf digits hname => ?_⟩
    have hlength := of_decide_eq_true (List.all_eq_true.1 hlengths f hf)
    rw [hname, List.length_append] at hlength
    exact (Nat.le_add_left _ _).trans hlength
  obtain ⟨l, hl⟩ := hloads (by simpa using ⟨hplain, hlegible⟩)
  have hrules := hrecommends l hl
  have hcomplete : Complete (.ofFields 1 scatteredAdvice) := by decide
  rw [List.filter_cons_of_pos (by simpa using hcomplete), List.filter_nil] at hrules
  obtain ⟨rule, rest, hrule, hrest, hitems⟩ := List.forall₂_cons_left_iff.1 hrules
  obtain rfl := List.forall₂_nil_left_iff.1 hrest
  refine ⟨l, hl, ?_⟩
  rw [hitems, List.map_singleton, (hrule hplain).2 _ hadvised]
  rfl

end InsightRule

end Scorecard
