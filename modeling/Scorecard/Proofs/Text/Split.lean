import Scorecard.Proofs.Text.Space
import Scorecard.Text.Split

/-!
# Pieces

Cutting a text at every separator undoes putting texts together with the separator between them.
White space around the whole text is white space around its first and last pieces, so it does not
show once the pieces are trimmed.
-/

namespace Scorecard.Text

theorem pieces_eq_splitOn (sep : Char) (cs : List Char) : pieces sep cs = cs.splitOn sep := by
  induction cs with
  | nil => simp [pieces]
  | cons c cs ih =>
    rw [List.splitOn_cons_eq_if_modifyHead, ← ih, pieces]
    by_cases hc : c = sep
    · rw [if_pos hc, if_pos (beq_iff_eq.2 hc)]
    · rw [if_neg hc, if_neg (mt beq_iff_eq.1 hc)]
      cases hpieces : pieces sep cs with
      | nil => exact absurd hpieces (pieces_ne_nil sep cs)
      | cons p ps => rfl

/-- Texts with a separator between them are found again, if none of them has one itself. -/
theorem split_intercalate {sep : Char} {texts : List String} (hne : texts ≠ [])
    (h : ∀ text ∈ texts, sep ∉ text.toList) :
    split sep ((String.ofList [sep]).intercalate texts) = texts := by
  rw [split, String.toList_intercalate, String.toList_ofList, pieces_eq_splitOn,
    List.splitOn_intercalate]
  · simp
  · simpa using h
  · simpa using hne

theorem pieces_of_notMem {sep : Char} {cs : List Char} (h : sep ∉ cs) : pieces sep cs = [cs] := by
  rw [pieces_eq_splitOn, List.splitOn_eq_singleton h]

/-- What is put together at a separator falls into the pieces of both parts. -/
theorem pieces_append (sep : Char) (cs ds : List Char) :
    pieces sep (cs ++ sep :: ds) = pieces sep cs ++ pieces sep ds := by
  induction cs with
  | nil => simp [pieces]
  | cons c cs ih =>
    rw [List.cons_append, pieces, pieces, ih]
    by_cases hc : c = sep
    · rw [if_pos hc, if_pos hc, List.cons_append]
    · rw [if_neg hc, if_neg hc]
      cases hpieces : pieces sep cs with
      | nil => exact absurd hpieces (pieces_ne_nil sep cs)
      | cons p ps => rfl

theorem one_lt_length_pieces {sep : Char} {cs : List Char} (h : sep ∈ cs) :
    1 < (pieces sep cs).length := by
  obtain ⟨before, after, rfl⟩ := List.append_of_mem h
  have hbefore := List.length_pos_iff.2 (pieces_ne_nil sep before)
  have hafter := List.length_pos_iff.2 (pieces_ne_nil sep after)
  rw [pieces_append, List.length_append]
  omega

/-! ## Trimmed pieces -/

theorem AllSpace.notMem {cs : List Char} (h : AllSpace cs) {c : Char} (hc : isSpace c = false) :
    c ∉ cs := by
  intro hmem
  rw [h c hmem] at hc
  cases hc

theorem trimmed_spaced {left cs right : List Char} (hleft : AllSpace left)
    (hright : AllSpace right) : trimmed (left ++ cs ++ right) = trimmed cs := by
  obtain ⟨left', right', hcs, hleft', htight, hright'⟩ := exists_padding cs
  have hall : left ++ cs ++ right = (left ++ left') ++ trimmed cs ++ (right' ++ right) := by
    conv_lhs => rw [hcs]
    simp only [List.append_assoc]
  rw [hall]
  exact trimmed_padded (List.forall_mem_append.2 ⟨hleft, hleft'⟩) htight
    (List.forall_mem_append.2 ⟨hright', hright⟩)

/-- White space around a text does not show in its trimmed pieces. -/
theorem map_trimmed_pieces_spaced {sep : Char} (hsep : isSpace sep = false)
    {left cs right : List Char} (hleft : AllSpace left) (hright : AllSpace right) :
    (pieces sep (left ++ cs ++ right)).map trimmed = (pieces sep cs).map trimmed := by
  induction hn : cs.length using Nat.strong_induction_on generalizing left cs with
  | _ n ih =>
    by_cases hmem : sep ∈ cs
    · -- The white space on the left goes to the first piece, and that on the right to the rest.
      obtain ⟨first, rest, rfl, hfirst⟩ := List.eq_append_cons_of_mem hmem
      have hrest : (pieces sep (rest ++ right)).map trimmed = (pieces sep rest).map trimmed := by
        refine ih rest.length ?_ allSpace_nil rfl
        rw [← hn, List.length_append, List.length_cons]
        omega
      have hspaced : sep ∉ left ++ first := by
        rw [List.mem_append, not_or]
        exact ⟨hleft.notMem hsep, hfirst⟩
      have htrimmed : trimmed (left ++ first ++ []) = trimmed first :=
        trimmed_spaced hleft allSpace_nil
      rw [List.append_nil] at htrimmed
      have hall : left ++ (first ++ sep :: rest) ++ right =
          (left ++ first) ++ sep :: (rest ++ right) := by
        simp only [List.append_assoc, List.cons_append]
      rw [hall, pieces_append, pieces_append, List.map_append, List.map_append, hrest,
        pieces_of_notMem hspaced, pieces_of_notMem hfirst, List.map_singleton, List.map_singleton,
        htrimmed]
    · have hspaced : sep ∉ left ++ cs ++ right := by
        rw [List.mem_append, List.mem_append, not_or, not_or]
        exact ⟨⟨hleft.notMem hsep, hmem⟩, hright.notMem hsep⟩
      rw [pieces_of_notMem hspaced, pieces_of_notMem hmem, List.map_singleton, List.map_singleton,
        trimmed_spaced hleft hright]

theorem map_trimmed_pieces_trimmed {sep : Char} (hsep : isSpace sep = false) (cs : List Char) :
    (pieces sep (trimmed cs)).map trimmed = (pieces sep cs).map trimmed := by
  obtain ⟨left, right, hcs, hleft, -, hright⟩ := exists_padding cs
  conv_rhs => rw [hcs]
  exact (map_trimmed_pieces_spaced hsep hleft hright).symm

theorem map_trim_split_trim {sep : Char} (hsep : isSpace sep = false) (s : String) :
    (split sep (trim s)).map trim = (split sep s).map trim := by
  have hform (part : List Char) : trim (String.ofList part) = String.ofList (trimmed part) := by
    rw [trim, String.toList_ofList]
  have hparts (cs : List Char) : ((pieces sep cs).map String.ofList).map trim =
      ((pieces sep cs).map trimmed).map String.ofList := by
    rw [List.map_map, List.map_map]
    exact List.map_congr_left fun part _ => hform part
  rw [split, split, hparts, hparts, trim, String.toList_ofList, map_trimmed_pieces_trimmed hsep]

end Scorecard.Text
