import Scorecard.Proofs.Datum
import Scorecard.Sheet.Row

/-!
# Numbered columns

A column is numbered if its name is a stem and digits. Its cell is asked for first, and if there is
one its number is read: it must not have too many digits, and all of them must be decimal.
-/

namespace Scorecard

/-! ## Numbers of columns -/

namespace Text

theorem decimalNat?_eq_none_iff {cs : List Char} (hne : cs ≠ []) :
    decimalNat? cs = none ↔ ∃ c ∈ cs, decimalValue? c = none := by
  have hfold (start : Option Nat) :
      cs.foldl (fun n c => do some (10 * (← n) + (← decimalValue? c))) start = none ↔
        start = none ∨ ∃ c ∈ cs, decimalValue? c = none := by
    clear hne
    induction cs generalizing start with
    | nil => simp
    | cons c cs ih =>
      rw [List.foldl_cons, ih]
      cases start with
      | none => simp
      | some n =>
        cases hc : decimalValue? c with
        | none => simp [hc]
        | some m => simp [hc]
  cases cs with
  | nil => exact absurd rfl hne
  | cons c cs =>
    have hread := hfold (some 0)
    rwa [or_iff_right (Option.some_ne_none 0)] at hread

end Text

namespace Row

/-- The name of a column is a stem and digits of any kind. -/
structure NumberedBy (stem : List Char) (key : String) (digits : List Char) : Prop where
  /-- The digits follow the stem. -/
  name : key.toList = stem ++ digits
  /-- There are some. -/
  nonempty : digits ≠ []
  /-- Nothing else does. -/
  digit : ∀ c ∈ digits, Text.isDigit c = true

theorem ordinal?_eq_some_iff {stem digits : List Char} {key : String} :
    ordinal? stem key.toList = some digits ↔ NumberedBy stem key digits := by
  constructor
  · intro h
    unfold ordinal? at h
    split at h
    · rename_i hstem
      obtain ⟨rest, hname⟩ := List.isPrefixOf_iff_prefix.1 hstem
      rw [← hname, List.drop_left] at h
      dsimp only at h
      split at h
      · cases h
      · rename_i hdigits
        obtain rfl := Option.some.inj h
        rw [Bool.or_eq_true, not_or] at hdigits
        exact ⟨hname.symm, by simpa using hdigits.1, by simpa using hdigits.2⟩
    · cases h
  · rintro ⟨hname, hne, hdigits⟩
    have hstem : stem.isPrefixOf (stem ++ digits) = true :=
      List.isPrefixOf_iff_prefix.2 (List.prefix_append _ _)
    rw [ordinal?, hname, if_pos hstem, List.drop_left]
    refine if_neg ?_
    simpa [hne] using hdigits

theorem ordinal_eq_ok_iff {digits : List Char} {n : Nat} :
    ordinal digits = .ok n ↔
      Text.leadingDecimals digits ≤ Text.longestNumber ∧ Text.decimalNat? digits = some n := by
  unfold ordinal
  dsimp only
  split
  · rename_i hlong
    exact iff_of_false (by simp) fun h => Nat.not_le.2 hlong h.1
  · rename_i hshort
    rw [and_iff_right (Nat.not_lt.1 hshort)]
    cases Text.decimalNat? digits <;> simp

/-- A number of a column is not read if it starts with too many decimal digits, and neither if not
all of its digits are decimal. -/
theorem ordinal_eq_error_iff {digits : List Char} (hne : digits ≠ []) {f : Fault} :
    ordinal digits = .error f ↔
      Text.longestNumber < Text.leadingDecimals digits ∧
          f = .ordinalTooLong (Text.leadingDecimals digits) ∨
        Text.leadingDecimals digits ≤ Text.longestNumber ∧
          (∃ c ∈ digits, Text.decimalValue? c = none) ∧
          f = .unreadableOrdinal (String.ofList digits) := by
  rw [← Text.decimalNat?_eq_none_iff hne]
  unfold ordinal
  dsimp only
  split
  · rename_i hlong
    rw [or_iff_left fun h => Nat.not_le.2 hlong h.1, and_iff_right hlong]
    simp [eq_comm]
  · rename_i hshort
    rw [or_iff_right (fun h => hshort h.1), and_iff_right (Nat.not_lt.1 hshort)]
    cases Text.decimalNat? digits <;> simp [eq_comm]

end Row

/-! ## Faults -/

/-- What stops one who reads a numbered column. -/
inductive NumberedFault (stem : List Char) : String × Datum → Fault → Prop
  /-- The cell cannot be written. -/
  | unwritable {key : String} {cell : Datum} {digits : List Char}
    (numbered : Row.NumberedBy stem key digits) (text : cell.hasText = false) :
    NumberedFault stem (key, cell) .numberTooLong
  /-- The cell is not blank, and its number starts with too many decimal digits. -/
  | tooLong {key : String} {cell : Datum} {digits : List Char}
    (numbered : Row.NumberedBy stem key digits) (there : ∃ text, cell.cell? = .ok (some text))
    (long : Text.longestNumber < Text.leadingDecimals digits) :
    NumberedFault stem (key, cell) (.ordinalTooLong (Text.leadingDecimals digits))
  /-- The cell is not blank, and its number has a digit that is not decimal. -/
  | notDecimal {key : String} {cell : Datum} {digits : List Char}
    (numbered : Row.NumberedBy stem key digits) (there : ∃ text, cell.cell? = .ok (some text))
    (short : Text.leadingDecimals digits ≤ Text.longestNumber)
    (other : ∃ c ∈ digits, Text.decimalValue? c = none) :
    NumberedFault stem (key, cell) (.unreadableOrdinal (String.ofList digits))

namespace Row

theorem numberedCell?_eq_error_iff {stem : List Char} {key : String} {cell : Datum} {f : Fault} :
    numberedCell? stem key cell = .error f ↔ NumberedFault stem (key, cell) f := by
  constructor
  · intro h
    unfold numberedCell? at h
    split at h
    · cases h
    · rename_i digits hordinal
      have hnumbered := ordinal?_eq_some_iff.1 hordinal
      rcases bind_eq_error_iff.1 h with h | ⟨text, htext, h⟩
      · obtain ⟨hcell, rfl⟩ := Datum.cell?_eq_error_iff.1 h
        exact .unwritable hnumbered hcell
      · split at h
        · cases h
        · rcases (ordinal_eq_error_iff hnumbered.nonempty).1 (map_eq_error_iff.1 h) with
            ⟨hlong, rfl⟩ | ⟨hshort, hother, rfl⟩
          · exact .tooLong hnumbered ⟨_, htext⟩ hlong
          · exact .notDecimal hnumbered ⟨_, htext⟩ hshort hother
  · intro h
    cases h with
    | unwritable hnumbered htext =>
      rw [numberedCell?, ordinal?_eq_some_iff.2 hnumbered, Datum.cell?_eq_error_iff.2 ⟨htext, rfl⟩]
      rfl
    | tooLong hnumbered hthere hlong =>
      obtain ⟨text, htext⟩ := hthere
      rw [numberedCell?, ordinal?_eq_some_iff.2 hnumbered, htext]
      exact map_eq_error_iff.2
        ((ordinal_eq_error_iff hnumbered.nonempty).2 (.inl ⟨hlong, rfl⟩))
    | notDecimal hnumbered hthere hshort hother =>
      obtain ⟨text, htext⟩ := hthere
      rw [numberedCell?, ordinal?_eq_some_iff.2 hnumbered, htext]
      exact map_eq_error_iff.2
        ((ordinal_eq_error_iff hnumbered.nonempty).2 (.inr ⟨hshort, hother, rfl⟩))

theorem numberedCell?_eq_some_iff {stem : List Char} {key : String} {cell : Datum}
    {a : Nat × String} : numberedCell? stem key cell = .ok (some a) ↔
      ∃ digits, NumberedBy stem key digits ∧ cell.cell? = .ok (some a.2) ∧
        ordinal digits = .ok a.1 := by
  obtain ⟨n, text⟩ := a
  simp only [← ordinal?_eq_some_iff]
  unfold numberedCell?
  cases ordinal? stem key.toList with
  | none => simp
  | some digits =>
    rw [bind_eq_ok_iff]
    constructor
    · rintro ⟨found, hfound, h⟩
      cases found with
      | none => cases h
      | some text' =>
        obtain ⟨m, hm, h⟩ := map_eq_ok_iff.1 h
        cases h
        exact ⟨digits, rfl, hfound, hm⟩
    · rintro ⟨digits', hdigits, hcell, hordinal⟩
      cases hdigits
      exact ⟨_, hcell, map_eq_ok_iff.2 ⟨n, hordinal, rfl⟩⟩

theorem numbered_eq_error_iff {row : Row} {stem : String} {f : Fault} :
    row.numbered stem = .error f ↔
      FirstFault (NumberedFault (columnKey stem).toList) row.cells f := by
  rw [numbered, bind_eq_error_iff, mapM_eq_error_iff fun _ _ => numberedCell?_eq_error_iff]
  simp [pure, Except.pure]

end Row

end Scorecard
