import Scorecard.Proofs.Datum
import Scorecard.Sheet.Row

/-!
# Columns that cannot be written

A whole number may be too long to be written. One who asks for the text of a column with such a
number gets none and goes no further, but only if he gets to it: of several columns that are asked
for together, those after the first that is not blank are not looked at.
-/

namespace Scorecard

variable {α β : Type}

/-! ## Steps that fail -/

/-- A step fails with exactly the faults that have a property. -/
def FailsAs (x : Except Fault α) (p : Fault → Prop) : Prop :=
  ∀ f, x = .error f ↔ p f

/-- A step fails exactly if something is the case, and then at a whole number that is too long to be
written. -/
def FailsIf (x : Except Fault α) (p : Prop) : Prop :=
  FailsAs x fun f => p ∧ f = .numberTooLong

/-- One step decides whether others are taken: it fails itself, or they are taken and fail. -/
theorem FailsAs.gate {x : Except Fault α} {k : α → Except Fault β} {p q : Fault → Prop} {c : Prop}
    (h : FailsAs x p) (hc : c → ∃ a, x = .ok a)
    (hk : ∀ a, x = .ok a → c ∧ FailsAs (k a) q ∨ ¬ c ∧ ∃ b, k a = .ok b) :
    FailsAs (x >>= k) fun f => p f ∨ c ∧ q f := by
  intro f
  rw [bind_eq_error_iff, h f]
  refine or_congr_right ⟨?_, ?_⟩
  · rintro ⟨a, ha, hfail⟩
    rcases hk a ha with ⟨htaken, hrest⟩ | ⟨-, b, hb⟩
    · exact ⟨htaken, (hrest f).1 hfail⟩
    · cases hb.symm.trans hfail
  · rintro ⟨htaken, hf⟩
    obtain ⟨a, ha⟩ := hc htaken
    rcases hk a ha with ⟨-, hrest⟩ | ⟨hnot, -⟩
    · exact ⟨a, ha, (hrest f).2 hf⟩
    · exact absurd htaken hnot

namespace FailsIf

variable {x : Except Fault α} {p q c : Prop}

theorem congr (h : FailsIf x p) (hpq : p ↔ q) : FailsIf x q := by
  intro f
  rw [h f, hpq]

theorem ok (a : α) : FailsIf (.ok a) False := by
  intro f
  simp

theorem map (h : FailsIf x p) (g : α → β) : FailsIf (x.map g) p := by
  intro f
  rw [map_eq_error_iff, h f]

/-- Steps that all fail for this reason fail if one of them would. -/
theorem bind {k : α → Except Fault β} (h : FailsIf x p)
    (hk : ∀ a, x = .ok a → FailsIf (k a) q) : FailsIf (x >>= k) (p ∨ q) := by
  intro f
  cases hx : x with
  | error e =>
    -- The first step has failed, so it does not matter whether the others would.
    obtain ⟨hp, rfl⟩ := (h e).1 hx
    simp [Bind.bind, Except.bind, hp, eq_comm]
  | ok a =>
    have hp : ¬ p := by
      intro hp
      rw [(h .numberTooLong).2 ⟨hp, rfl⟩] at hx
      cases hx
    rw [or_iff_right hp]
    exact hk a hx f

/-- The same where the first step decides whether the others are taken. -/
theorem gate {k : α → Except Fault β} (h : FailsIf x p)
    (hk : ∀ a, x = .ok a → c ∧ FailsIf (k a) q ∨ ¬ c ∧ ∃ b, k a = .ok b) :
    FailsIf (x >>= k) (p ∨ c ∧ q) := by
  refine h.bind fun a ha => ?_
  rcases hk a ha with ⟨htaken, hrest⟩ | ⟨hnot, b, hb⟩
  · exact hrest.congr (and_iff_right htaken).symm
  · rw [hb]
    exact (FailsIf.ok b).congr (iff_of_false not_false fun h => hnot h.1)

end FailsIf

/-! ## Columns -/

namespace Row

variable (row : Row)

/-- A text that is asked for in several columns cannot be written: the first of them that is not
blank has none. -/
inductive Unwritable : List String → Prop
  /-- The first column has none. -/
  | here {name : String} (h : (row.datum name).hasText = false) (names : List String) :
    Unwritable (name :: names)
  /-- The first column is blank. -/
  | later {name : String} {names : List String} (hblank : (row.datum name).cell? = .ok none)
    (h : Unwritable names) : Unwritable (name :: names)

theorem failsIf_text? (names : List String) : FailsIf (row.text? names) (row.Unwritable names) := by
  intro f
  induction names with
  | nil =>
    refine iff_of_false (by simp [text?]) fun h => ?_
    cases h.1
  | cons name names ih =>
    rw [text?, bind_eq_error_iff, Datum.cell?_eq_error_iff]
    constructor
    · rintro (⟨hcell, rfl⟩ | ⟨cell, hcell, h⟩)
      · exact ⟨.here hcell names, rfl⟩
      · cases cell with
        | some s => cases h
        | none =>
          obtain ⟨hnames, rfl⟩ := ih.1 h
          exact ⟨.later hcell hnames, rfl⟩
    · rintro ⟨h, rfl⟩
      cases h with
      | here hcell => exact .inl ⟨hcell, rfl⟩
      | later hcell hnames => exact .inr ⟨none, hcell, ih.2 ⟨hnames, rfl⟩⟩

theorem failsIf_text (names : List String) (default : String) :
    FailsIf (row.text names default) (row.Unwritable names) :=
  (row.failsIf_text? names).map _

theorem failsIf_number? (names : List String) :
    FailsIf (row.number? names) (row.Unwritable names) :=
  (row.failsIf_text? names).map _

theorem failsIf_has (names : List String) : FailsIf (row.has names) (row.Unwritable names) :=
  (row.failsIf_text? names).map _

theorem failsIf_flag (names : List String) (default : Bool) :
    FailsIf (row.flag names default) (row.Unwritable names) :=
  (row.failsIf_text names "").map _

theorem failsIf_items (names : List String) (separator : Char) :
    FailsIf (row.items names separator) (row.Unwritable names) :=
  (row.failsIf_text names "").map _

end Row

end Scorecard
