import Scorecard.Proofs.Sequence
import Scorecard.Sheet.Definitions
import Scorecard.Sheet.Rules

/-!
# Reading one row

The four kinds of rows of the configuration are read alike. A row without an id is dropped under its
place in the sheet; of any other row only the cells count. A row that is dropped gives one warning,
which says so, and the warnings about a row that is kept say what was amended in it.
-/

namespace Scorecard

open Text (lower)

/-! ## What warnings say -/

/-- A warning says that a row was dropped. -/
def Warning.SaysDropped (w : Warning) : Prop :=
  "dropped.".toList <:+ w.cause.message.toList

/-- The causes that are found in rows that are kept. -/
inductive Cause.Amends : Cause → Prop
  /-- A format that there is not. -/
  | format (text : String) : Amends (.unknownFormat text)
  /-- A severity that there is not. -/
  | severity (text : String) : Amends (.unknownSeverity text)
  /-- A tolerance that is no number. -/
  | tolerance : Amends .unreadableTolerance
  /-- A priority that is no number. -/
  | priority : Amends .unreadablePriority
  /-- A threshold that is missing or no number. -/
  | threshold (level : String) : Amends (.noThreshold level)

theorem Warning.saysDropped_of_drops {w : Warning} (h : w.cause.drops = true) :
    w.SaysDropped := by
  have hend (front : String) : "dropped.".toList <:+ (front ++ "; row dropped.").toList := by
    rw [String.toList_append]
    exact ⟨front.toList ++ "; row ".toList, by rw [List.append_assoc]; rfl⟩
  obtain ⟨source, ref, cause⟩ := w
  cases cause with
  | noKpiId => exact (by decide : "dropped.".toList <:+ "Row has no kpi_id; dropped.".toList)
  | noRuleId => exact (by decide : "dropped.".toList <:+ "Row has no rule id; dropped.".toList)
  | noTrigger => exact (by decide : "dropped.".toList <:+ "Row has no trigger; dropped.".toList)
  | unknownDirection text => exact hend _
  | unknownBasis text => exact hend _
  | unknownKind text => exact hend _
  | unknownStatus text => exact hend _
  | _ => cases h

/-- A warning about a row that is kept does not say that the row was dropped. -/
theorem Warning.not_saysDropped {w : Warning} (h : w.cause.Amends) : ¬ w.SaysDropped := by
  have hend (front back : String) (hlength : 8 ≤ back.toList.length)
      (hback : "dropped.".toList.isSuffixOf back.toList = false) :
      ¬ "dropped.".toList <:+ (front ++ back).toList := by
    rw [String.toList_append]
    intro hsuffix
    have hshort := List.suffix_of_suffix_length_le hsuffix (List.suffix_append _ _) hlength
    rw [List.isSuffixOf_iff_suffix.2 hshort] at hback
    cases hback
  obtain ⟨source, ref, cause⟩ := w
  cases h with
  | format text => exact hend _ "; using number." (by decide) (by decide)
  | severity text => exact hend _ "; using warning." (by decide) (by decide)
  | tolerance => exact hend "" "Non-numeric tolerance; using the default." (by decide) (by decide)
  | priority => exact hend "" "Non-numeric priority; using 0." (by decide) (by decide)
  | threshold level => exact hend _ " is missing or non-numeric." (by decide) (by decide)

/-! ## Readers of rows -/

/-- A row has the cells of another: every column has the same text, and the numbered columns can be
read if they can in the other, and have the same texts. -/
structure Row.SameCells (row row' : Row) : Prop where
  /-- The texts of the columns, and what stops one who asks for them. -/
  text? : row.text? = row'.text?
  /-- The texts of the numbered columns. -/
  numbered : ∀ stem texts, row.numbered stem = .ok texts → row'.numbered stem = .ok texts

/-- Rows with the same datum in every column have the same texts. -/
theorem Row.text?_congr {row row' : Row} (h : ∀ name, row.datum name = row'.datum name) :
    row.text? = row'.text? := by
  funext names
  induction names with
  | nil => rw [Row.text?, Row.text?]
  | cons name names ih => rw [Row.text?, Row.text?, h, ih]

/-- What the cells of a row hold does not depend on its place. -/
theorem Row.sameCells_of_cells {row row' : Row} (h : row.cells = row'.cells) :
    row.SameCells row' where
  text? := Row.text?_congr fun name => by rw [Row.datum, Row.datum, h]
  numbered stem texts hread := by rwa [Row.numbered, ← h]

namespace Row.SameCells

variable {row row' : Row}

theorem text (h : row.SameCells row') : row.text = row'.text := by
  funext names default
  rw [Row.text, Row.text, h.text?]

theorem number? (h : row.SameCells row') : row.number? = row'.number? := by
  funext names
  rw [Row.number?, Row.number?, h.text?]

theorem has (h : row.SameCells row') : row.has = row'.has := by
  funext names
  rw [Row.has, Row.has, h.text?]

theorem flag (h : row.SameCells row') : row.flag = row'.flag := by
  funext names default
  rw [Row.flag, Row.flag, h.text]

theorem items (h : row.SameCells row') : row.items = row'.items := by
  funext names separator
  rw [Row.items, Row.items, h.text]

theorem levels (h : row.SameCells row') : row.levels = row'.levels := by
  rw [Row.levels, Row.levels, h.number?]

theorem recommendations (h : row.SameCells row') {texts : List String}
    (hread : row.recommendations = .ok texts) : row'.recommendations = .ok texts := by
  rw [Row.recommendations, bind_eq_ok_iff] at hread ⊢
  obtain ⟨items, hitems, hread⟩ := hread
  refine ⟨items, h.items ▸ hitems, ?_⟩
  split at hread
  · exact h.numbered _ _ hread
  · exact hread

end Row.SameCells

/-- What the readers of rows have in common. A row without an id in the columns `names` is dropped
for `cause`. -/
structure RowReader {α : Type} (names : List String) (source : Source) (cause : Cause)
    (read : Row → Except Fault (RowResult α)) : Prop where
  /-- A row without an id is dropped under its place. -/
  unnamed : ∀ row, row.text? names = .ok none →
    read row = .ok (.dropped ⟨source, row.ref, cause⟩)
  /-- Of any other row only the cells count. -/
  named : ∀ row row', row.SameCells row' → row.text? names ≠ .ok none →
    ∀ result, read row = .ok result → read row' = .ok result
  /-- The warning about a row that is dropped says so. -/
  dropped : ∀ row w, read row = .ok (.dropped w) → w.cause.drops = true
  /-- The warnings about a row that is kept say what was amended. -/
  kept : ∀ row item warnings, read row = .ok (.kept item warnings) →
    ∀ w ∈ warnings, w.cause.Amends

/-- What can come of a row of KPIs: without an id it is dropped, and otherwise it is kept, with a
warning about its format at most. -/
theorem Kpi.of_result {row : Row} {result : RowResult Kpi} (h : ofRow row = .ok result) :
    (row.text? ["kpi_id", "id"] = .ok none ∧ result = .dropped ⟨.kpi, row.ref, .noKpiId⟩) ∨
    ∃ id word kpi, row.text? ["kpi_id", "id"] = .ok (some id) ∧
      result = .kept kpi (if (KpiFormat.ofWord? word).isSome then []
        else [⟨.kpi, id, .unknownFormat word⟩]) := by
  simp only [ofRow, bind_eq_ok_iff] at h
  obtain ⟨id, hid, h⟩ := h
  cases id with
  | none => exact .inl ⟨hid, (Except.ok.inj h).symm⟩
  | some id =>
    simp only [bind_eq_ok_iff] at h
    obtain ⟨word, -, decimals, -, name, -, h⟩ := h
    exact .inr ⟨id, _, _, hid, (Except.ok.inj h).symm⟩

theorem Kpi.rowReader : RowReader ["kpi_id", "id"] .kpi .noKpiId Kpi.ofRow where
  unnamed row h := by
    rw [Kpi.ofRow, h]
    rfl
  named row row' h hid result hread := by
    rw [Kpi.ofRow, h.text?, h.text, h.number?] at hread
    rw [h.text?] at hid
    obtain ⟨id, hid', hread⟩ := bind_eq_ok_iff.1 hread
    cases id with
    | none => exact absurd hid' hid
    | some id => exact bind_eq_ok_iff.2 ⟨some id, hid', hread⟩
  dropped row w h := by
    rcases Kpi.of_result h with ⟨-, h⟩ | ⟨id, word, kpi, -, h⟩
    · cases h
      rfl
    · cases h
  kept row item warnings h := by
    rcases Kpi.of_result h with ⟨-, h⟩ | ⟨id, word, kpi, -, h⟩
    · cases h
    · obtain ⟨-, rfl⟩ := RowResult.kept.inj h
      intro w hw
      split at hw
      · cases hw
      · obtain rfl := List.mem_singleton.1 hw
        exact .format _

/-- What can come of a row of validation rules: without an id it is dropped, and otherwise it is
kept, with warnings about its severity and its tolerance at most. -/
theorem ValidationRule.of_result {defaultTolerance : Float} {row : Row}
    {result : RowResult ValidationRule} (h : ofRow defaultTolerance row = .ok result) :
    (row.text? ["id", "rule_id"] = .ok none ∧
      result = .dropped ⟨.validation, row.ref, .noRuleId⟩) ∨
    ∃ id word tolerance hasTolerance rule, row.text? ["id", "rule_id"] = .ok (some id) ∧
      row.number? ["tolerance"] = .ok tolerance ∧ row.has ["tolerance"] = .ok hasTolerance ∧
      result = .kept rule
        ((if (Severity.ofWord? word).isSome then []
          else [⟨.validation, id, .unknownSeverity word⟩]) ++
        if tolerance.isNone && hasTolerance then [⟨.validation, id, .unreadableTolerance⟩]
        else []) := by
  simp only [ofRow, bind_eq_ok_iff] at h
  obtain ⟨id, hid, h⟩ := h
  cases id with
  | none => exact .inl ⟨hid, (Except.ok.inj h).symm⟩
  | some id =>
    simp only [bind_eq_ok_iff] at h
    obtain ⟨word, -, tolerance, htolerance, hasTolerance, hhas, h⟩ := h
    obtain ⟨name, -, type, -, formula, -, message, -, kpis, -, active, -, h⟩ := h
    exact .inr ⟨id, _, tolerance, hasTolerance, _, hid, htolerance, hhas, (Except.ok.inj h).symm⟩

theorem ValidationRule.rowReader (defaultTolerance : Float) :
    RowReader ["id", "rule_id"] .validation .noRuleId
      (ValidationRule.ofRow defaultTolerance) where
  unnamed row h := by
    rw [ValidationRule.ofRow, h]
    rfl
  named row row' h hid result hread := by
    rw [ValidationRule.ofRow, h.text?, h.text, h.number?, h.has, h.items, h.flag] at hread
    rw [h.text?] at hid
    obtain ⟨id, hid', hread⟩ := bind_eq_ok_iff.1 hread
    cases id with
    | none => exact absurd hid' hid
    | some id => exact bind_eq_ok_iff.2 ⟨some id, hid', hread⟩
  dropped row w h := by
    rcases ValidationRule.of_result h with ⟨-, h⟩ | ⟨id, word, tolerance, has, rule, -, -, -, h⟩
    · cases h
      rfl
    · cases h
  kept row item warnings h := by
    rcases ValidationRule.of_result h with ⟨-, h⟩ | ⟨id, word, tolerance, has, rule, -, -, -, h⟩
    · cases h
    · obtain ⟨-, rfl⟩ := RowResult.kept.inj h
      intro w hw
      rcases List.mem_append.1 hw with hw | hw
      · split at hw
        · cases hw
        · obtain rfl := List.mem_singleton.1 hw
          exact .severity _
      · split at hw
        · obtain rfl := List.mem_singleton.1 hw
          exact .tolerance
        · cases hw

/-- What can come of a row of benchmarks: without an id it is dropped under its place, with a
direction or a basis that there is not it is dropped too, and otherwise it is kept, with a warning
for each threshold that it lacks. -/
theorem Benchmark.of_result {row : Row} {result : RowResult Benchmark}
    (h : ofRow row = .ok result) :
    (row.text? ["kpi_id", "kpi"] = .ok none ∧ result = .dropped ⟨.benchmark, row.ref, .noKpiId⟩) ∨
    ∃ id, row.text? ["kpi_id", "kpi"] = .ok (some id) ∧
      ((∃ word, result = .dropped ⟨.benchmark, id, .unknownDirection word⟩ ∨
        result = .dropped ⟨.benchmark, id, .unknownBasis word⟩) ∨
      ∃ levels benchmark, row.levels = .ok levels ∧ result = .kept benchmark
        (levels.absent.map fun level => ⟨.benchmark, id, .noThreshold level⟩)) := by
  simp only [ofRow, bind_eq_ok_iff] at h
  obtain ⟨id, hid, h⟩ := h
  cases id with
  | none => exact .inl ⟨hid, (Except.ok.inj h).symm⟩
  | some id =>
    refine .inr ⟨id, hid, ?_⟩
    simp only [bind_eq_ok_iff] at h
    obtain ⟨direction, -, h⟩ := h
    split at h
    · obtain ⟨basis, -, h⟩ := bind_eq_ok_iff.1 h
      split at h
      · simp only [bind_eq_ok_iff] at h
        obtain ⟨levels, hlevels, industry, -, region, -, h⟩ := h
        exact .inr ⟨levels, _, hlevels, (Except.ok.inj h).symm⟩
      · exact .inl ⟨_, .inr (Except.ok.inj h).symm⟩
    · exact .inl ⟨_, .inl (Except.ok.inj h).symm⟩

theorem Benchmark.rowReader :
    RowReader ["kpi_id", "kpi"] .benchmark .noKpiId Benchmark.ofRow where
  unnamed row h := by
    rw [Benchmark.ofRow, h]
    rfl
  named row row' h hid result hread := by
    rw [Benchmark.ofRow, h.text?, h.text, h.levels] at hread
    rw [h.text?] at hid
    obtain ⟨id, hid', hread⟩ := bind_eq_ok_iff.1 hread
    cases id with
    | none => exact absurd hid' hid
    | some id => exact bind_eq_ok_iff.2 ⟨some id, hid', hread⟩
  dropped row w h := by
    rcases Benchmark.of_result h with
      ⟨-, h⟩ | ⟨id, -, ⟨word, h | h⟩ | ⟨levels, benchmark, -, h⟩⟩
    · cases h
      rfl
    · cases h
      rfl
    · cases h
      rfl
    · cases h
  kept row item warnings h := by
    rcases Benchmark.of_result h with
      ⟨-, h⟩ | ⟨id, -, ⟨word, h | h⟩ | ⟨levels, benchmark, -, h⟩⟩
    · cases h
    · cases h
    · cases h
    · obtain ⟨-, rfl⟩ := RowResult.kept.inj h
      intro w hw
      obtain ⟨level, -, rfl⟩ := List.mem_map.1 hw
      exact .threshold level

/-- A row has a text in some columns. -/
def Row.Fills (row : Row) (names : List String) : Prop :=
  ∃ s, row.text? names = .ok (some s)

namespace InsightRule

/-- A row has a kind that there is, or none. -/
def HasKind (row : Row) : Prop :=
  ∃ kind, readKind row = .ok kind ∧ (InsightKind.ofName? (lower kind.1)).isSome = true

/-- A row has a status that there is, or none. -/
def HasStatus (row : Row) : Prop :=
  ∃ word, row.text ["status"] Status.warning.name = .ok word ∧
    (Status.ofName? (lower word)).isSome = true

/-- Whether a row is kept as an insight rule, as far as its other cells can be read: it has an id
and a trigger, and a kind and a status that there are or that are not given. -/
def Complete (row : Row) : Prop :=
  row.Fills ["id", "rule_id"] ∧ HasKind row ∧ HasStatus row ∧ row.Fills ["trigger"]

end InsightRule

/-- What can come of a row of insight rules: without an id it is dropped under its place, if it is
incomplete otherwise it is dropped too, and a complete one is kept with its recommendations, and
with a warning about its priority at most. -/
theorem InsightRule.of_result {row : Row} {result : RowResult InsightRule}
    (h : ofRow row = .ok result) :
    (row.text? ["id", "rule_id"] = .ok none ∧ result = .dropped ⟨.insight, row.ref, .noRuleId⟩) ∨
    ∃ id, row.text? ["id", "rule_id"] = .ok (some id) ∧
      ((∃ cause, cause.drops = true ∧ ¬ Complete row ∧ result = .dropped ⟨.insight, id, cause⟩) ∨
      ∃ texts priority hasPriority rule, Complete row ∧ row.recommendations = .ok texts ∧
        rule.advice = texts.take recommendationLimit ∧
        row.number? ["priority"] = .ok priority ∧ row.has ["priority"] = .ok hasPriority ∧
        result = .kept rule (if priority.isNone && hasPriority then
          [⟨.insight, id, .unreadablePriority⟩] else [])) := by
  simp only [ofRow, bind_eq_ok_iff] at h
  obtain ⟨id, hid, h⟩ := h
  cases id with
  | none => exact .inl ⟨hid, (Except.ok.inj h).symm⟩
  | some id =>
    refine .inr ⟨id, hid, ?_⟩
    simp only [bind_eq_ok_iff] at h
    obtain ⟨⟨kindWord, kpiIds⟩, hkind, h⟩ := h
    split at h
    · rename_i kind hkindWord
      obtain ⟨statusWord, hstatus, h⟩ := bind_eq_ok_iff.1 h
      split at h
      · rename_i status hstatusWord
        obtain ⟨trigger, htrigger, h⟩ := bind_eq_ok_iff.1 h
        split at h
        · simp only [bind_eq_ok_iff] at h
          obtain ⟨texts, htexts, priority, hpriority, hasPriority, hhas, h⟩ := h
          obtain ⟨title, -, summary, -, detail, -, sectionId, -, h⟩ := h
          obtain rfl := Except.ok.inj h
          have hcomplete : Complete row :=
            ⟨⟨id, hid⟩, ⟨_, hkind, by rw [hkindWord]; rfl⟩, ⟨_, hstatus, by rw [hstatusWord]; rfl⟩,
              ⟨_, htrigger⟩⟩
          exact .inr ⟨texts, priority, hasPriority, _, hcomplete, htexts, rfl, hpriority, hhas, rfl⟩
        · rename_i hnone
          refine .inl ⟨_, rfl, ?_, (Except.ok.inj h).symm⟩
          rintro ⟨-, -, -, s, hs⟩
          exact hnone s (Except.ok.inj (htrigger.symm.trans hs))
      · rename_i hnone
        refine .inl ⟨_, rfl, ?_, (Except.ok.inj h).symm⟩
        rintro ⟨-, -, ⟨word, hword, hknown⟩, -⟩
        obtain rfl := Except.ok.inj (hstatus.symm.trans hword)
        obtain ⟨status, hstatusWord⟩ := Option.isSome_iff_exists.1 hknown
        exact hnone status hstatusWord
    · rename_i hnone
      refine .inl ⟨_, rfl, ?_, (Except.ok.inj h).symm⟩
      rintro ⟨-, ⟨read, hread, hknown⟩, -⟩
      obtain rfl := Except.ok.inj (hkind.symm.trans hread)
      obtain ⟨kind, hkindWord⟩ := Option.isSome_iff_exists.1 hknown
      exact hnone kind hkindWord

theorem InsightRule.rowReader :
    RowReader ["id", "rule_id"] .insight .noRuleId InsightRule.ofRow where
  unnamed row h := by
    rw [InsightRule.ofRow, h]
    rfl
  named row row' h hid result hread := by
    rw [InsightRule.ofRow, readKind, h.text?, h.text, h.items, h.number?, h.has] at hread
    rw [InsightRule.ofRow, readKind]
    rw [h.text?] at hid
    obtain ⟨id, hid', hread⟩ := bind_eq_ok_iff.1 hread
    cases id with
    | none => exact absurd hid' hid
    | some id =>
      refine bind_eq_ok_iff.2 ⟨some id, hid', ?_⟩
      obtain ⟨⟨kindWord, kpiIds⟩, hkind, hread⟩ := bind_eq_ok_iff.1 hread
      refine bind_eq_ok_iff.2 ⟨(kindWord, kpiIds), hkind, ?_⟩
      dsimp only at hread ⊢
      split at hread
      · obtain ⟨status, hstatus, hread⟩ := bind_eq_ok_iff.1 hread
        refine bind_eq_ok_iff.2 ⟨status, hstatus, ?_⟩
        split at hread
        · obtain ⟨trigger, htrigger, hread⟩ := bind_eq_ok_iff.1 hread
          refine bind_eq_ok_iff.2 ⟨trigger, htrigger, ?_⟩
          split at hread
          · obtain ⟨texts, htexts, hread⟩ := bind_eq_ok_iff.1 hread
            exact bind_eq_ok_iff.2 ⟨texts, h.recommendations htexts, hread⟩
          · exact hread
        · exact hread
      · exact hread
  dropped row w h := by
    rcases InsightRule.of_result h with
      ⟨-, h⟩ | ⟨id, -, ⟨cause, hcause, -, h⟩ | ⟨texts, priority, has, rule, -, -, -, -, -, h⟩⟩
    · cases h
      rfl
    · cases h
      exact hcause
    · cases h
  kept row item warnings h := by
    rcases InsightRule.of_result h with
      ⟨-, h⟩ | ⟨id, -, ⟨cause, hcause, -, h⟩ | ⟨texts, priority, has, rule, -, -, -, -, -, h⟩⟩
    · cases h
    · cases h
    · obtain ⟨-, rfl⟩ := RowResult.kept.inj h
      intro w hw
      split at hw
      · obtain rfl := List.mem_singleton.1 hw
        exact .priority
      · cases hw

end Scorecard
