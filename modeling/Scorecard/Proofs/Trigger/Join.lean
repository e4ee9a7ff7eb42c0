import Scorecard.Proofs.Trigger.Parse

/-!
# Triggers put together

Two triggers with a separator between them are a trigger with the clauses of both: no trigger ends
with the letters of `AND`, so no separator begins in the first one and ends behind it. The word
`AND` before a trigger is no separator, since no white space stands before it. It belongs to the id
of the first clause.
-/

namespace Scorecard

open Text (AllSpace Tight isSpace trimmed)

/-- A clause with the word `AND` before its KPI. -/
def Clause.afterAnd (gap : List Char) (c : Clause) : Clause :=
  { c with kpiId := String.ofList (['A', 'N', 'D'] ++ gap ++ c.kpiId.toList) }

namespace Trigger

/-- The texts that begin with the word `AND`. -/
def BeginsWithAnd (cs : List Char) : Prop :=
  ∃ rest, cs = ['A', 'N', 'D'] ++ rest ∧ ∀ c ∈ rest.head?, isSpace c = true

/-! ## Parts -/

theorem isSpace_head_and (cs : List Char) :
    ∀ c ∈ (['A', 'N', 'D'] ++ cs).head?, isSpace c = false := by
  intro c hc
  obtain rfl := Option.some.inj hc
  rfl

/-- What stands before the first separator is solid. -/
theorem solid_of_first {part sep rest : List Char} (hsep : IsSeparator sep)
    (hfirst : ∀ before sep' after, IsSeparator sep' →
      part ++ sep ++ rest = before ++ sep' ++ after → part.length ≤ before.length) :
    Solid part where
  last := by
    intro c hc
    by_contra hspace
    rw [Bool.not_eq_false] at hspace
    obtain ⟨front, rfl⟩ := List.getLast?_eq_some_iff.1 hc
    have hpad : IsSeparator ([c] ++ sep ++ []) :=
      hsep.pad (List.forall_mem_singleton.2 hspace) Text.allSpace_nil
    have hlength := hfirst front _ rest hpad (by simp)
    rw [List.length_append, List.length_singleton] at hlength
    omega
  noAnd := by
    rintro before c after hc hafter rfl
    obtain ⟨d, tail, hbehind, hd⟩ : ∃ d tail, after ++ (sep ++ rest) = d :: tail ∧
        isSpace d = true := by
      cases after with
      | nil =>
        obtain ⟨d, tail, rfl⟩ := List.exists_cons_of_ne_nil hsep.ne_nil
        exact ⟨d, _, rfl, hsep.isSpace_head d rfl⟩
      | cons d after => exact ⟨d, _, rfl, hafter d rfl⟩
    have hlength := hfirst before _ tail (isSeparator_of_isSpace hc hd) (by simp [hbehind])
    rw [List.length_append, List.length_cons] at hlength
    omega

/-- What stands behind the last separator is solid if its end is none of the end of `AND` and white
space. -/
theorem solid_of_last {part : List Char} (hlast : ∀ c ∈ part.getLast?, isSpace c = false)
    (hand : ∀ front, part ≠ front ++ ['A', 'N', 'D'])
    (hnone : ∀ before sep after, IsSeparator sep → part ≠ before ++ sep ++ after) :
    Solid part where
  last := hlast
  noAnd := by
    intro before c after hc hafter hpart
    cases after with
    | nil => exact hand (before ++ [c]) (by simp [hpart])
    | cons d after =>
      exact hnone before _ after (isSeparator_of_isSpace hc (hafter d rfl)) (by simp [hpart])

/-- The parts of a text, a separator and more text are the parts of both texts. -/
theorem parts_join {cs sep rest : List Char} (hlast : ∀ c ∈ cs.getLast?, isSpace c = false)
    (hand : ∀ front, cs ≠ front ++ ['A', 'N', 'D']) (hsep : IsSeparator sep)
    (hrest : ∀ c ∈ rest.head?, isSpace c = false) :
    parts (cs ++ sep ++ rest) = parts cs ++ parts rest := by
  have hsplits := splits_parts cs
  generalize parts cs = ps at hsplits ⊢
  induction hsplits with
  | @last cs hnone =>
    exact (solid_of_last hlast hand hnone).parts_append_separator hsep hrest
  | @more part sep' rest' ps hsep' hfirst hlong _ ih =>
    have hne : rest' ≠ [] := by
      rintro rfl
      rw [List.append_nil, List.getLast?_append_of_ne_nil _ hsep'.ne_nil] at hlast
      obtain ⟨front, d, rfl⟩ := (List.eq_nil_or_concat' sep').resolve_left hsep'.ne_nil
      have hspace := hsep'.isSpace_last d (List.getLast?_concat ..)
      rw [hlast d (List.getLast?_concat ..)] at hspace
      cases hspace
    have hrest' : parts (rest' ++ sep ++ rest) = ps ++ parts rest := by
      refine ih (fun c hc => hlast c ?_) fun front hfront => ?_
      · rwa [List.getLast?_append_of_ne_nil _ hne]
      · exact hand (part ++ sep' ++ front) (by simp [hfront])
    have hhead : ∀ c ∈ (rest' ++ sep ++ rest).head?, isSpace c = false := by
      intro c hc
      rw [List.append_assoc, List.head?_append_of_ne_nil _ hne] at hc
      exact hlong c hc
    calc parts (part ++ sep' ++ rest' ++ sep ++ rest)
        = parts (part ++ sep' ++ (rest' ++ sep ++ rest)) := by simp only [List.append_assoc]
      _ = part :: parts (rest' ++ sep ++ rest) :=
        (solid_of_first hsep' hfirst).parts_append_separator hsep' hhead
      _ = part :: ps ++ parts rest := by rw [hrest', List.cons_append]

/-- The word `AND` before a text belongs to the first part of it. -/
theorem parts_afterAnd {gap cs p : List Char} {ps : List (List Char)} (hgap : AllSpace gap)
    (hhead : ∀ c ∈ cs.head?, isSpace c = false) (hand : ¬ BeginsWithAnd cs)
    (hcs : parts cs = p :: ps) :
    parts (['A', 'N', 'D'] ++ gap ++ cs) = (['A', 'N', 'D'] ++ gap ++ p) :: ps := by
  refine parts_append (fun t _ hsuffix => ?_) hcs
  by_contra hfound
  obtain ⟨rest, hfound⟩ := Option.ne_none_iff_exists'.1 hfound
  obtain ⟨sep, hsplit, hsep, -⟩ := afterAnd?_eq_some_iff.1 hfound
  have hspace : AllSpace t := by
    obtain ⟨front, hfront⟩ := hsuffix
    rcases List.append_eq_append_iff.1 hfront with ⟨word, hword, rfl⟩ | ⟨pad, -, hpad⟩
    · rw [List.append_assoc] at hsplit
      obtain rfl : word = [] := by
        refine eq_nil_of_and_eq hword hsplit.symm fun c hc => notMem_and_of_isSpace ?_
        rw [List.head?_append_of_ne_nil _ hsep.ne_nil] at hc
        exact hsep.isSpace_head c hc
      exact hgap
    · intro c hc
      exact hgap c (by rw [hpad]; exact List.mem_append_right _ hc)
  obtain ⟨left, right, rfl, -, hleft, hne, hright⟩ := hsep
  rw [List.append_assoc, List.append_assoc] at hsplit
  have hcs := Text.eq_of_space_append hspace hleft hhead (isSpace_head_and _) hsplit
  refine hand ⟨right ++ rest, hcs, fun c hc => hright c ?_⟩
  rw [List.head?_append_of_ne_nil _ hne] at hc
  exact List.mem_of_mem_head? hc

/-- Where the front of a text is no white space, the front of no part of it is. -/
theorem isSpace_head_of_mem_parts {cs p : List Char} (hcs : ∀ c ∈ cs.head?, isSpace c = false)
    (hp : p ∈ parts cs) : ∀ c ∈ p.head?, isSpace c = false := by
  have hsplits := splits_parts cs
  generalize parts cs = ps at hsplits hp
  induction hsplits with
  | last => rwa [List.mem_singleton.1 hp]
  | @more part sep rest ps _ _ hlong _ ih =>
    rcases List.mem_cons.1 hp with rfl | hp
    · intro c hc
      rw [List.append_assoc] at hcs
      exact hcs c (List.mem_head?_append_of_mem_head? hc)
    · exact ih hlong hp

/-! ## The word at the end -/

theorem exists_part_suffix (cs : List Char) : ∃ p ∈ parts cs, p <:+ cs := by
  have hsplits := splits_parts cs
  generalize parts cs = ps at hsplits ⊢
  induction hsplits with
  | last => exact ⟨_, List.mem_cons_self, List.suffix_refl _⟩
  | more _ _ _ _ ih =>
    obtain ⟨p, hp, hsuffix⟩ := ih
    exact ⟨p, List.mem_cons_of_mem _ hp, hsuffix.trans (List.suffix_append _ _)⟩

/-- A part at the end of a text that ends with `AND` is no clause. -/
theorem clause_ne_ok_of_suffix {front part : List Char} {c : Clause}
    (h : part <:+ front ++ ['A', 'N', 'D']) : clause part ≠ .ok c := by
  intro hread
  obtain ⟨before, after, rfl, -, -, -, hcondition⟩ := clause_eq_ok_iff.1 hread
  obtain ⟨extra, hsuffix⟩ := h
  have hsplit : extra ++ before ++ [':'] ++ after = front ++ ['A', 'N', 'D'] := by
    rw [← hsuffix]
    simp
  refine hcondition.not_and ?_
  rcases List.append_eq_append_iff.1 hsplit with ⟨word, -, rfl⟩ | ⟨word, hfront, hword⟩
  · simp
  · rcases eq_nil_or_mem_of_append_eq hfront.symm with rfl | hmem
    · rw [List.nil_append] at hword
      simp [← hword]
    · have hcolon : ':' ∈ ['A', 'N', 'D'] := by
        rw [hword]
        exact List.mem_append_left _ hmem
      exact absurd hcolon (by decide)

theorem exists_error_of_and_last {text : String} {front : List Char}
    (h : trimmed text.toList = front ++ ['A', 'N', 'D']) : ∃ e, parse text = .error e := by
  cases hread : parse text with
  | error e => exact ⟨e, rfl⟩
  | ok clauses =>
    obtain ⟨p, hp, hsuffix⟩ := exists_part_suffix (trimmed text.toList)
    obtain ⟨c, hc⟩ := exists_of_mapM_eq_ok (parse_eq_ok_iff.1 hread) hp
    exact absurd hc (clause_ne_ok_of_suffix (h ▸ hsuffix))

/-! ## Clauses -/

/-- The id of a clause is at the front of a text without white space there. -/
theorem exists_id_first {p : List Char} {c : Clause} (hhead : ∀ d ∈ p.head?, isSpace d = false)
    (h : clause p = .ok c) : ∃ gap after, p = c.kpiId.toList ++ gap ++ ':' :: after ∧
      AllSpace gap ∧ ':' ∉ c.kpiId.toList ∧ Tight c.kpiId.toList ∧ c.kpiId.toList ≠ [] ∧
        c.condition.SpelledBy after := by
  obtain ⟨before, after, rfl, hfirst, hid, hne, hcondition⟩ := clause_eq_ok_iff.1 h
  obtain ⟨left, gap, hsplit, hleft, htight, hgap⟩ := Text.exists_padding before
  rw [hid] at hsplit htight hne
  cases left with
  | nil =>
    rw [List.nil_append] at hsplit
    subst hsplit
    exact ⟨gap, after, rfl, hgap, fun hmem => hfirst (List.mem_append_left _ hmem), htight, hne,
      hcondition⟩
  | cons d left =>
    have hspace := hhead d (by rw [hsplit]; rfl)
    rw [hleft d List.mem_cons_self] at hspace
    cases hspace

theorem tight_afterAnd {cs : List Char} (h : Tight cs) (hne : cs ≠ []) (gap : List Char) :
    Tight (['A', 'N', 'D'] ++ gap ++ cs) := by
  constructor
  · rw [List.append_assoc]
    exact isSpace_head_and _
  · rw [List.getLast?_append_of_ne_nil _ hne]
    exact h.last

/-- The word `AND` before a clause belongs to the id. -/
theorem clause_afterAnd {gap p : List Char} {c : Clause} (hgap : AllSpace gap)
    (hhead : ∀ d ∈ p.head?, isSpace d = false) (h : clause p = .ok c) :
    clause (['A', 'N', 'D'] ++ gap ++ p) = .ok (c.afterAnd gap) := by
  obtain ⟨pad, after, rfl, hpad, hcolon, htight, hne, hcondition⟩ := exists_id_first hhead h
  set front := ['A', 'N', 'D'] ++ gap ++ c.kpiId.toList with hfront
  have hid : (c.afterAnd gap).kpiId.toList = front := String.toList_ofList ..
  have hcolon' : ':' ∉ front ++ pad := by
    have hspaces : ':' ∉ gap ++ pad := fun hmem => absurd
      ((List.forall_mem_append.2 ⟨hgap, hpad⟩) ':' hmem) (by decide)
    simp_all
  have htrimmed : trimmed (front ++ pad) = front :=
    Text.trimmed_padded Text.allSpace_nil (tight_afterAnd htight hne gap) hpad
  refine clause_eq_ok_iff.2 ⟨front ++ pad, after, by simp [hfront], hcolon', ?_, ?_, hcondition⟩
  · rw [htrimmed, hid]
  · rw [htrimmed, hfront]
    simp

/-! ## Triggers -/

/-- Two triggers with a separator between them have the clauses of both. -/
theorem parse_join {left right text : String} {ls rs : List Clause} {sep : List Char}
    (hleft : parse left = .ok ls) (hright : parse right = .ok rs) (hsep : IsSeparator sep)
    (htext : trimmed text.toList = trimmed left.toList ++ sep ++ trimmed right.toList) :
    parse text = .ok (ls ++ rs) := by
  have hand : ∀ front, trimmed left.toList ≠ front ++ ['A', 'N', 'D'] := by
    intro front h
    obtain ⟨e, he⟩ := exists_error_of_and_last h
    rw [hleft] at he
    cases he
  rw [parse_eq_ok_iff] at hleft hright ⊢
  rw [htext, parts_join (Text.tight_trimmed _).last hand hsep (Text.tight_trimmed _).head]
  exact mapM_eq_ok_iff.2 (List.rel_append (mapM_eq_ok_iff.1 hleft) (mapM_eq_ok_iff.1 hright))

/-- The word before a trigger belongs to the first id. -/
theorem parse_afterAnd {right text : String} {gap : List Char} {c : Clause}
    {clauses : List Clause} (hright : parse right = .ok (c :: clauses)) (hgap : AllSpace gap)
    (hand : ¬ BeginsWithAnd (trimmed right.toList))
    (htext : trimmed text.toList = ['A', 'N', 'D'] ++ gap ++ trimmed right.toList) :
    parse text = .ok (c.afterAnd gap :: clauses) := by
  rw [parse_eq_ok_iff, mapM_eq_ok_iff] at hright ⊢
  have hhead := (Text.tight_trimmed right.toList).head
  obtain ⟨p, ps, hc, hclauses, hparts⟩ := List.forall₂_cons_right_iff.1 hright
  have hp : ∀ d ∈ p.head?, isSpace d = false :=
    isSpace_head_of_mem_parts hhead (hparts ▸ List.mem_cons_self)
  rw [htext, parts_afterAnd hgap hhead hand hparts]
  exact .cons (clause_afterAnd hgap hp hc) hclauses

/-- The word behind a trigger and a separator belongs to the id that follows. -/
theorem parse_join_afterAnd {left right text : String} {ls clauses : List Clause} {c : Clause}
    {sep gap : List Char} (hleft : parse left = .ok ls) (hright : parse right = .ok (c :: clauses))
    (hsep : IsSeparator sep) (hgap : AllSpace gap) (hand : ¬ BeginsWithAnd (trimmed right.toList))
    (htext : trimmed text.toList =
      trimmed left.toList ++ sep ++ (['A', 'N', 'D'] ++ gap ++ trimmed right.toList)) :
    parse text = .ok (ls ++ c.afterAnd gap :: clauses) := by
  have hne : trimmed right.toList ≠ [] := by
    intro hblank
    rw [parse, hblank] at hright
    cases hright
  set behind := String.ofList (['A', 'N', 'D'] ++ gap ++ trimmed right.toList) with hbehind
  have htrimmed : trimmed behind.toList = ['A', 'N', 'D'] ++ gap ++ trimmed right.toList := by
    rw [hbehind, String.toList_ofList]
    exact Text.trimmed_of_tight (tight_afterAnd (Text.tight_trimmed _) hne gap)
  exact parse_join hleft (parse_afterAnd hright hgap hand htrimmed) hsep (htrimmed ▸ htext)

end Trigger

end Scorecard
