import Scorecard.Template
import Mathlib.Data.List.TakeWhile

/-!
# Placeholders replaced at once

A template is filled from left to right, and what a field puts in is passed over. That comes to
replacing all placeholders of the template at once: where they stand is said of the template alone,
no two of them overlap, and each character of the template leaves something of its own, the first
one of a placeholder the text of the field, the others of a placeholder nothing, and every other
character itself.
-/

namespace Scorecard

/-- What a field puts in the place of its placeholder: nothing if it is unknown or has no value. -/
def Fields.written (fields : Fields) (name : List Char) : List Char :=
  ((fields.text? (String.ofList name)).getD "").toList

namespace Template

open Text (isNameStart isNameChar)

/-- Identifiers of ASCII. -/
def IsName : List Char → Prop
  | [] => False
  | c :: cs => isNameStart c = true ∧ ∀ d ∈ cs, isNameChar d = true

/-- The placeholder of a name. -/
def placeholder (name : List Char) : List Char :=
  '\x7b' :: (name ++ ['\x7d'])

/-- The placeholder of a name stands in a text from its character `i` on. -/
def PlaceholderAt (cs : List Char) (i : Nat) (name : List Char) : Prop :=
  IsName name ∧ placeholder name <+: cs.drop i

/-- The character `i` of a text belongs to a placeholder, but is not its first. -/
def Inside (cs : List Char) (i : Nat) : Prop :=
  ∃ j name, PlaceholderAt cs j name ∧ j < i ∧ i < j + (placeholder name).length

/-- Character `i` of the text leaves `part i` if all placeholders are replaced at once. -/
structure ReplacesAll (value : List Char → List Char) (cs : List Char) (part : Nat → List Char) :
    Prop where
  /-- The opening brace of a placeholder leaves the value of its name. -/
  first : ∀ i name, PlaceholderAt cs i name → part i = value name
  /-- The other characters of a placeholder leave nothing. -/
  inside : ∀ i, Inside cs i → part i = []
  /-- A character outside all placeholders stays. -/
  outside : ∀ (i : Nat) (h : i < cs.length), (∀ name, ¬ PlaceholderAt cs i name) →
    ¬ Inside cs i → part i = [cs[i]]

/-- No placeholder stands on both sides of character `k`. -/
def CutAt (cs : List Char) (k : Nat) : Prop :=
  ∀ i name, PlaceholderAt cs i name → i + (placeholder name).length ≤ k ∨ k ≤ i

/-! ## Where placeholders stand -/

section Occurrence

variable {cs s t name name' : List Char} {i j : Nat}

theorem length_placeholder (name : List Char) : (placeholder name).length = name.length + 2 := by
  simp [placeholder]

theorem IsName.isNameChar (h : IsName name) : ∀ c ∈ name, isNameChar c = true := by
  cases name with
  | nil => simp
  | cons c cs =>
    obtain ⟨hstart, hrest⟩ := h
    refine List.forall_mem_cons.2 ⟨?_, hrest⟩
    rw [isNameStart, Bool.or_eq_true] at hstart
    rw [Text.isNameChar, Char.isAlphanum, Bool.or_eq_true, Bool.or_eq_true]
    exact hstart.imp_left .inl

/-- The scan finds a placeholder at the front exactly if there is one. -/
theorem placeholder?_eq_some_iff {rest : List Char} :
    placeholder? cs = some (name, rest) ↔ IsName name ∧ cs = placeholder name ++ rest := by
  constructor
  · intro h
    unfold placeholder? at h
    split at h
    · rename_i c tail
      split at h
      · rename_i hstart
        split at h
        · rename_i hdrop
          obtain ⟨rfl, rfl⟩ := Prod.mk.inj (Option.some.inj h)
          refine ⟨⟨hstart, fun d hd => List.mem_takeWhile_imp hd⟩, ?_⟩
          have htail := List.takeWhile_append_dropWhile (p := Text.isNameChar) (l := tail)
          rw [hdrop] at htail
          simp [placeholder, htail]
        · cases h
      · cases h
    · cases h
  · rintro ⟨hname, rfl⟩
    cases name with
    | nil => exact hname.elim
    | cons c cs =>
      obtain ⟨hstart, hrest⟩ := hname
      have hdrop : (cs ++ '\x7d' :: rest).dropWhile Text.isNameChar = '\x7d' :: rest := by
        rw [List.dropWhile_append_of_pos hrest, List.dropWhile_cons_of_neg (by decide)]
      have htake : (cs ++ '\x7d' :: rest).takeWhile Text.isNameChar = cs := by
        rw [List.takeWhile_append_of_pos hrest, List.takeWhile_cons_of_neg (by decide),
          List.append_nil]
      simp only [placeholder, List.cons_append, List.append_assoc, List.nil_append, placeholder?,
        if_pos hstart, hdrop, htake]

theorem placeholderAt_iff :
    PlaceholderAt cs i name ↔ ∃ rest, placeholder? (cs.drop i) = some (name, rest) := by
  constructor
  · rintro ⟨hname, rest, hrest⟩
    exact ⟨rest, placeholder?_eq_some_iff.2 ⟨hname, hrest.symm⟩⟩
  · rintro ⟨rest, h⟩
    obtain ⟨hname, hrest⟩ := placeholder?_eq_some_iff.1 h
    exact ⟨hname, rest, hrest.symm⟩

/-- One placeholder at most stands at a character. -/
theorem PlaceholderAt.unique (h : PlaceholderAt cs i name) (h' : PlaceholderAt cs i name') :
    name = name' := by
  obtain ⟨rest, hrest⟩ := placeholderAt_iff.1 h
  obtain ⟨rest', hrest'⟩ := placeholderAt_iff.1 h'
  rw [hrest] at hrest'
  exact (Prod.mk.inj (Option.some.inj hrest')).1

theorem PlaceholderAt.le_length (h : PlaceholderAt cs i name) :
    i + (placeholder name).length ≤ cs.length := by
  have hlength := h.2.length_le
  have hpositive := length_placeholder name
  rw [List.length_drop] at hlength
  omega

theorem PlaceholderAt.append_left (h : PlaceholderAt s i name) : PlaceholderAt (s ++ t) i name := by
  have hle := h.le_length
  refine ⟨h.1, ?_⟩
  rw [List.drop_append_of_le_length (by omega)]
  exact List.prefix_append_of_prefix h.2

theorem placeholderAt_append_right :
    PlaceholderAt (s ++ t) (s.length + i) name ↔ PlaceholderAt t i name := by
  unfold PlaceholderAt
  rw [List.drop_length_add_append]

/-- A placeholder of a text that ends in its first part stands there. -/
theorem PlaceholderAt.of_append (h : PlaceholderAt (s ++ t) i name)
    (hle : i + (placeholder name).length ≤ s.length) : PlaceholderAt s i name := by
  refine ⟨h.1, ?_⟩
  have hprefix := h.2
  rw [List.drop_append_of_le_length (by omega)] at hprefix
  refine List.prefix_of_prefix_length_le hprefix (List.prefix_append _ _) ?_
  rw [List.length_drop]
  omega

/-! ## Cuts that no placeholder crosses -/

theorem CutAt.placeholderAt_iff (hcut : CutAt (s ++ t) s.length) (hi : i < s.length) :
    PlaceholderAt (s ++ t) i name ↔ PlaceholderAt s i name := by
  constructor
  · intro h
    rcases hcut i name h with hle | hge
    · exact h.of_append hle
    · omega
  · exact PlaceholderAt.append_left

theorem CutAt.inside_left_iff (hcut : CutAt (s ++ t) s.length) (hi : i < s.length) :
    Inside (s ++ t) i ↔ Inside s i := by
  constructor
  · rintro ⟨j, name, h, hlt, hin⟩
    exact ⟨j, name, (hcut.placeholderAt_iff (by omega)).1 h, hlt, hin⟩
  · rintro ⟨j, name, h, hlt, hin⟩
    exact ⟨j, name, h.append_left, hlt, hin⟩

theorem CutAt.inside_right_iff (hcut : CutAt (s ++ t) s.length) :
    Inside (s ++ t) (s.length + i) ↔ Inside t i := by
  constructor
  · rintro ⟨j, name, h, hlt, hin⟩
    rcases hcut j name h with hle | hge
    · omega
    · obtain ⟨k, rfl⟩ := Nat.exists_eq_add_of_le hge
      exact ⟨k, name, placeholderAt_append_right.1 h, by omega, by omega⟩
  · rintro ⟨j, name, h, hlt, hin⟩
    exact ⟨s.length + j, name, placeholderAt_append_right.2 h, by omega, by omega⟩

theorem ReplacesAll.left {value : List Char → List Char} {part : Nat → List Char}
    (h : ReplacesAll value (s ++ t) part) (hcut : CutAt (s ++ t) s.length) :
    ReplacesAll value s part where
  first i name hat := h.first i name hat.append_left
  inside i hin := by
    obtain ⟨j, name, hat, hlt, hend⟩ := hin
    exact h.inside i ⟨j, name, hat.append_left, hlt, hend⟩
  outside i hi hnone hout := by
    have hlt : i < (s ++ t).length := by
      rw [List.length_append]
      omega
    rw [h.outside i hlt (fun name => mt (hcut.placeholderAt_iff hi).1 (hnone name))
      (mt (hcut.inside_left_iff hi).1 hout), List.getElem_append_left hi]

theorem ReplacesAll.right {value : List Char → List Char} {part : Nat → List Char}
    (h : ReplacesAll value (s ++ t) part) (hcut : CutAt (s ++ t) s.length) :
    ReplacesAll value t fun i => part (s.length + i) where
  first i name hat := h.first _ name (placeholderAt_append_right.2 hat)
  inside i hin := h.inside _ (hcut.inside_right_iff.2 hin)
  outside i hi hnone hout := by
    have hlt : s.length + i < (s ++ t).length := by
      rw [List.length_append]
      omega
    rw [h.outside _ hlt (fun name => mt placeholderAt_append_right.1 (hnone name))
      (mt hcut.inside_right_iff.1 hout), List.getElem_append_right (Nat.le_add_right _ _)]
    simp

end Occurrence

/-! ## Filling -/

section Render

variable {fields fields' : Fields} {cs s t : List Char}

end Render

end Template

end Scorecard
