import Scorecard.Trigger
import Scorecard.Proofs.Text.Space

/-!
# Parts between separators

A separator is the word `AND` with white space on both sides. A text is cut at its separators from
the left: the first part ends where the first separator begins, a separator takes in all white space
that follows it, and the rest is cut in the same way. `Splits` says so without the algorithm, and
the parts that are found are the only ones that it admits.
-/

namespace Scorecard.Trigger

open Text (AllSpace isSpace)

/-- White space, the word `AND`, and white space again. -/
def IsSeparator (cs : List Char) : Prop :=
  ∃ left right, cs = left ++ ['A', 'N', 'D'] ++ right ∧ left ≠ [] ∧ AllSpace left ∧
    right ≠ [] ∧ AllSpace right

/-- The parts of a text between its separators. -/
inductive Splits : List Char → List (List Char) → Prop
  /-- There is no separator. -/
  | last {cs : List Char}
    (hnone : ∀ before sep after, IsSeparator sep → cs ≠ before ++ sep ++ after) : Splits cs [cs]
  /-- No separator begins before the one after the first part, and that one is as long as can be. -/
  | more {part sep rest : List Char} {ps : List (List Char)} (hsep : IsSeparator sep)
    (hfirst : ∀ before sep' after, IsSeparator sep' →
      part ++ sep ++ rest = before ++ sep' ++ after → part.length ≤ before.length)
    (hlong : ∀ c ∈ rest.head?, isSpace c = false) (hrest : Splits rest ps) :
    Splits (part ++ sep ++ rest) (part :: ps)

/-! ## Separators -/

theorem IsSeparator.ne_nil {sep : List Char} (h : IsSeparator sep) : sep ≠ [] := by
  rintro rfl
  obtain ⟨left, right, hsep, -⟩ := h
  simp at hsep

theorem IsSeparator.isSpace_head {sep : List Char} (h : IsSeparator sep) :
    ∀ c ∈ sep.head?, isSpace c = true := by
  obtain ⟨left, right, rfl, hne, hleft, -⟩ := h
  intro c hc
  rw [List.append_assoc, List.head?_append_of_ne_nil _ hne] at hc
  exact hleft c (List.mem_of_mem_head? hc)

theorem IsSeparator.isSpace_last {sep : List Char} (h : IsSeparator sep) :
    ∀ c ∈ sep.getLast?, isSpace c = true := by
  obtain ⟨left, right, rfl, -, -, hne, hright⟩ := h
  intro c hc
  rw [List.getLast?_append_of_ne_nil _ hne] at hc
  exact hright c (List.mem_of_getLast? hc)

/-- White space beside a separator can be counted to it. -/
theorem IsSeparator.pad {sep left right : List Char} (h : IsSeparator sep) (hleft : AllSpace left)
    (hright : AllSpace right) : IsSeparator (left ++ sep ++ right) := by
  obtain ⟨left', right', rfl, hne, hleft', hne', hright'⟩ := h
  refine ⟨left ++ left', right' ++ right, by simp, ?_, ?_, ?_, ?_⟩
  · exact List.append_ne_nil_of_right_ne_nil _ hne
  · exact List.forall_mem_append.2 ⟨hleft, hleft'⟩
  · exact List.append_ne_nil_of_left_ne_nil hne' _
  · exact List.forall_mem_append.2 ⟨hright', hright⟩

theorem isSeparator_of_isSpace {c d : Char} (hc : isSpace c = true) (hd : isSpace d = true) :
    IsSeparator ([c] ++ ['A', 'N', 'D'] ++ [d]) :=
  ⟨[c], [d], rfl, List.cons_ne_nil _ _, List.forall_mem_singleton.2 hc, List.cons_ne_nil _ _,
    List.forall_mem_singleton.2 hd⟩

theorem afterAnd?_separator {sep rest : List Char} (h : IsSeparator sep)
    (hrest : ∀ c ∈ rest.head?, isSpace c = false) : afterAnd? (sep ++ rest) = some rest := by
  obtain ⟨left, right, rfl, hne, hleft, hne', hright⟩ := h
  obtain ⟨c, left, rfl⟩ := List.exists_cons_of_ne_nil hne
  obtain ⟨d, right, rfl⟩ := List.exists_cons_of_ne_nil hne'
  have hfront : (c :: left ++ ['A', 'N', 'D'] ++ d :: right ++ rest).dropWhile isSpace =
      'A' :: 'N' :: 'D' :: d :: (right ++ rest) := by
    rw [List.append_assoc, List.append_assoc, List.dropWhile_append_of_pos hleft]
    rfl
  have hback : (right ++ rest).dropWhile isSpace = rest := by
    rw [List.dropWhile_append_of_pos fun e he => hright e (List.mem_cons_of_mem d he)]
    exact Text.dropWhile_of_head hrest
  unfold afterAnd?
  rw [hfront]
  simp only [List.cons_append, hleft c List.mem_cons_self, hright d List.mem_cons_self, hback,
    if_true]

theorem afterAnd?_eq_some_iff {cs rest : List Char} :
    afterAnd? cs = some rest ↔
      ∃ sep, cs = sep ++ rest ∧ IsSeparator sep ∧ ∀ c ∈ rest.head?, isSpace c = false := by
  constructor
  · intro h
    unfold afterAnd? at h
    split at h
    · cases h
    · rename_i c tail
      split at h
      · rename_i hc
        split at h
        · rename_i d back hdrop
          split at h
          · rename_i hd
            obtain rfl := Option.some.inj h
            have hleft := List.takeWhile_append_dropWhile (p := isSpace) (l := c :: tail)
            have hright := List.takeWhile_append_dropWhile (p := isSpace) (l := back)
            refine ⟨(c :: tail).takeWhile isSpace ++ ['A', 'N', 'D'] ++ d :: back.takeWhile isSpace,
              ?_, ⟨_, _, rfl, ?_, ?_, List.cons_ne_nil _ _, ?_⟩, Text.isSpace_head_dropWhile back⟩
            · rw [hdrop] at hleft
              calc c :: tail
                  = (c :: tail).takeWhile isSpace ++ 'A' :: 'N' :: 'D' :: d :: back := hleft.symm
                _ = _ := by simp only [List.append_assoc, List.cons_append, List.nil_append, hright]
            · rw [List.takeWhile_cons_of_pos hc]
              exact List.cons_ne_nil _ _
            · exact fun e he => List.mem_takeWhile_imp he
            · exact List.forall_mem_cons.2 ⟨hd, fun e he => List.mem_takeWhile_imp he⟩
          · cases h
        · cases h
      · cases h
  · rintro ⟨sep, rfl, hsep, hrest⟩
    exact afterAnd?_separator hsep hrest

/-- Where a text begins with a separator, one is found. -/
theorem afterAnd?_ne_none {sep after : List Char} (h : IsSeparator sep) :
    afterAnd? (sep ++ after) ≠ none := by
  have hsplit := List.takeWhile_append_dropWhile (p := isSpace) (l := after)
  have hspace : AllSpace (after.takeWhile isSpace) := fun e he => List.mem_takeWhile_imp he
  have hsep := h.pad Text.allSpace_nil hspace
  rw [List.nil_append] at hsep
  have hfound : afterAnd? (sep ++ after) = some (after.dropWhile isSpace) := by
    refine afterAnd?_eq_some_iff.2 ⟨_, ?_, hsep, Text.isSpace_head_dropWhile after⟩
    rw [List.append_assoc, hsplit]
  rw [hfound]
  exact Option.some_ne_none _

/-! ## Parts -/

theorem parts_of_separator {cs rest : List Char} (h : afterAnd? cs = some rest) :
    parts cs = [] :: parts rest := by
  rw [parts]
  split
  · rename_i rest' h'
    rw [h] at h'
    rw [Option.some.inj h']
  · rename_i h'
    rw [h] at h'
    cases h'

theorem parts_nil : parts [] = [[]] := by
  rw [parts]
  rfl

theorem parts_cons {c : Char} {cs p : List Char} {ps : List (List Char)}
    (h : afterAnd? (c :: cs) = none) (hcs : parts cs = p :: ps) :
    parts (c :: cs) = (c :: p) :: ps := by
  rw [parts]
  split
  · rename_i h'
    rw [h] at h'
    cases h'
  · dsimp only
    rw [hcs]

/-- Characters in which no separator begins belong to the part that follows them. -/
theorem parts_append {front back p : List Char} {ps : List (List Char)}
    (h : ∀ t, t ≠ [] → t <:+ front → afterAnd? (t ++ back) = none) (hback : parts back = p :: ps) :
    parts (front ++ back) = (front ++ p) :: ps := by
  induction front with
  | nil => exact hback
  | cons c front ih =>
    refine parts_cons (h (c :: front) (List.cons_ne_nil _ _) (List.suffix_refl _)) ?_
    exact ih fun t ht hsuffix => h t ht (hsuffix.trans (List.suffix_cons c front))

/-- A part, a separator and more text. -/
theorem parts_append_separator {part sep rest : List Char}
    (h : ∀ t, t ≠ [] → t <:+ part → afterAnd? (t ++ (sep ++ rest)) = none) (hsep : IsSeparator sep)
    (hrest : ∀ c ∈ rest.head?, isSpace c = false) :
    parts (part ++ sep ++ rest) = part :: parts rest := by
  have hback := parts_of_separator (afterAnd?_separator hsep hrest)
  rw [List.append_assoc, parts_append h hback, List.append_nil]

/-- A part alone. -/
theorem parts_eq_singleton {part : List Char}
    (h : ∀ t, t ≠ [] → t <:+ part → afterAnd? t = none) : parts part = [part] := by
  have hparts : parts (part ++ []) = [part ++ []] := parts_append (by simpa using h) parts_nil
  rwa [List.append_nil] at hparts

theorem Splits.cons {c : Char} {cs p : List Char} {ps : List (List Char)}
    (hnone : afterAnd? (c :: cs) = none) (h : Splits cs (p :: ps)) :
    Splits (c :: cs) ((c :: p) :: ps) := by
  cases h with
  | last hcs =>
    refine .last fun before sep after hsep heq => ?_
    cases before with
    | nil => exact afterAnd?_ne_none hsep (heq ▸ hnone)
    | cons d before => exact hcs before sep after hsep (List.cons.inj heq).2
  | @more _ sep rest _ hsep hfirst hlong hrest =>
    change Splits (c :: p ++ sep ++ rest) _
    refine .more hsep (fun before sep' after hsep' heq => ?_) hlong hrest
    cases before with
    | nil =>
      have hnone' : afterAnd? (c :: p ++ sep ++ rest) = none := hnone
      rw [heq] at hnone'
      exact absurd hnone' (afterAnd?_ne_none hsep')
    | cons d before => exact Nat.succ_le_succ (hfirst before sep' after hsep' (List.cons.inj heq).2)

theorem splits_parts (cs : List Char) : Splits cs (parts cs) := by
  fun_induction parts cs with
  | case1 cs rest h ih =>
    obtain ⟨sep, rfl, hsep, hlong⟩ := afterAnd?_eq_some_iff.1 h
    change Splits ([] ++ sep ++ rest) _
    exact .more hsep (fun _ _ _ _ _ => Nat.zero_le _) hlong ih
  | case2 h =>
    refine .last fun before sep after hsep heq => hsep.ne_nil ?_
    simpa using (List.append_eq_nil_iff.1 (List.append_eq_nil_iff.1 heq.symm).1).2
  | case3 c cs h hparts ih =>
    rw [hparts] at ih
    cases ih
  | case4 c cs h p ps hparts ih =>
    rw [hparts] at ih
    exact ih.cons h

/-- The parts that are found are the parts between separators. -/
theorem splits_iff {cs : List Char} {ps : List (List Char)} : Splits cs ps ↔ parts cs = ps := by
  constructor
  · intro h
    induction h with
    | @last cs hnone =>
      refine parts_eq_singleton fun t _ hsuffix => ?_
      obtain ⟨before, rfl⟩ := hsuffix
      by_contra hfound
      obtain ⟨rest, hfound⟩ := Option.ne_none_iff_exists'.1 hfound
      obtain ⟨sep, rfl, hsep, -⟩ := afterAnd?_eq_some_iff.1 hfound
      exact hnone before sep rest hsep (List.append_assoc _ _ _).symm
    | @more part sep rest ps hsep hfirst hlong _ ih =>
      rw [← ih]
      refine parts_append_separator (fun t hne hsuffix => ?_) hsep hlong
      obtain ⟨before, rfl⟩ := hsuffix
      by_contra hfound
      obtain ⟨rest', hfound⟩ := Option.ne_none_iff_exists'.1 hfound
      obtain ⟨sep', hsplit, hsep', -⟩ := afterAnd?_eq_some_iff.1 hfound
      have hlength := hfirst before sep' rest' hsep' (by simp [hsplit])
      have := List.length_pos_of_ne_nil hne
      rw [List.length_append] at hlength
      omega
  · rintro rfl
    exact splits_parts cs

end Scorecard.Trigger
