import Scorecard.Proofs.Sequence
import Scorecard.Proofs.Trigger.Condition
import Scorecard.Proofs.Trigger.Separator

/-!
# Texts of composite triggers

A list of clauses is written as its clauses with separators between them, and a clause as the id of
a KPI, a colon and a condition, with white space around all of them. Where the ids can be told from
the rest, every such text is read as the clauses that were written. A text is no trigger exactly if
one of its parts is no clause: it has no colon, no id before the first colon, or no condition after
it.
-/

namespace Scorecard

open Text (AllSpace Tight isSpace lower trimmed)

/-- The word `AND` with the ends of the text or white space on both sides. -/
def Trigger.HoldsAnd (cs : List Char) : Prop :=
  ∃ before after, cs = before ++ ['A', 'N', 'D'] ++ after ∧
    (∀ c ∈ before.getLast?, isSpace c = true) ∧ ∀ c ∈ after.head?, isSpace c = true

/-- Whether a text holds the word `AND` can be computed. -/
theorem Trigger.holdsAnd_iff {cs : List Char} : HoldsAnd cs ↔
    ((List.range cs.length).any fun i => (cs.drop i).take 3 == ['A', 'N', 'D'] &&
      (cs.take i).getLast?.all isSpace && (cs.drop (i + 3)).head?.all isSpace) = true := by
  rw [List.any_eq_true]
  simp only [Bool.and_eq_true, beq_iff_eq, Option.all_eq_true]
  constructor
  · rintro ⟨before, after, rfl, hbefore, hafter⟩
    refine ⟨before.length, List.mem_range.2 (by simp), ⟨by simp, ?_⟩, ?_⟩
    · rwa [List.append_assoc, List.take_left]
    · rwa [show before.length + 3 = (before ++ ['A', 'N', 'D']).length by simp, List.drop_left]
  · rintro ⟨i, -, ⟨hword, hbefore⟩, hafter⟩
    refine ⟨cs.take i, cs.drop (i + 3), ?_, hbefore, hafter⟩
    rw [← hword, List.append_assoc, ← List.drop_drop, List.take_append_drop, List.take_append_drop]

instance : DecidablePred Trigger.HoldsAnd := fun _ =>
  decidable_of_iff _ Trigger.holdsAnd_iff.symm

/-- A clause whose KPI can be told from the rest of a trigger. -/
structure Clause.Nameable (c : Clause) : Prop where
  /-- The KPI is not empty. -/
  nonempty : c.kpiId ≠ ""
  /-- The KPI has no white space around it. -/
  trimmed : Text.trim c.kpiId = c.kpiId
  /-- The KPI has no colon. -/
  noColon : ':' ∉ c.kpiId.toList
  /-- No separator stands in the KPI. -/
  noAnd : ¬ Trigger.HoldsAnd c.kpiId.toList

/-- The texts of a clause. -/
def Clause.SpelledBy (c : Clause) (cs : List Char) : Prop :=
  ∃ left gap condition, cs = left ++ c.kpiId.toList ++ gap ++ ':' :: condition ∧ AllSpace left ∧
    AllSpace gap ∧ c.condition.SpelledBy condition

/-- The texts of a list of clauses. -/
inductive Trigger.SpelledBy : List Clause → List Char → Prop
  /-- One clause. -/
  | one {c : Clause} {cs : List Char} (hc : c.SpelledBy cs) : SpelledBy [c] cs
  /-- A clause, a separator and further clauses. -/
  | more {c : Clause} {clauses : List Clause} {cs sep rest : List Char} (hc : c.SpelledBy cs)
    (hsep : IsSeparator sep) (hrest : SpelledBy clauses rest) :
    SpelledBy (c :: clauses) (cs ++ sep ++ rest)

/-- The texts between separators that are no clauses. -/
inductive Trigger.Lacking : List Char → Prop
  /-- There is no colon. -/
  | colon {part : List Char} (hnone : ':' ∉ part) : Lacking part
  /-- There is no KPI before the first colon. -/
  | kpi {before after : List Char} (hblank : AllSpace before) : Lacking (before ++ ':' :: after)
  /-- There is no condition after the first colon. -/
  | condition {before after : List Char} (hfirst : ':' ∉ before)
    (hnone : ∀ c : Condition, ¬ c.SpelledBy after) : Lacking (before ++ ':' :: after)

/-- The ratings that a condition admits, by how good they are. -/
inductive Condition.Admits : Condition → Rating → Prop
  /-- The named rating itself. -/
  | exact (r : Rating) : Admits (.exact r) r
  /-- The named rating or a worse one. -/
  | orWorse {r rating : Rating} (h : rating.rank ≤ r.rank) : Admits (.orWorse r) rating
  /-- The named rating or a better one. -/
  | orBetter {r rating : Rating} (h : r.rank ≤ rating.rank) : Admits (.orBetter r) rating
  /-- Any rating. -/
  | any (rating : Rating) : Admits .any rating

namespace Trigger

/-! ## The word `AND` -/

/-- The last character of a text is in the back part of it, if that is not empty. -/
theorem eq_nil_or_mem_of_append_eq {front back cs : List Char} {c : Char}
    (h : front ++ back = cs ++ [c]) : back = [] ∨ c ∈ back := by
  rcases List.eq_nil_or_concat' back with rfl | ⟨back, d, rfl⟩
  · exact .inl rfl
  · rw [← List.append_assoc] at h
    have hlast : [d] = [c] := (List.append_inj' h rfl).2
    rw [hlast]
    exact .inr List.mem_concat_self

theorem HoldsAnd.of_append_space {cs gap : List Char} (hgap : AllSpace gap)
    (h : HoldsAnd (cs ++ gap)) : HoldsAnd cs := by
  obtain ⟨before, after, hsplit, hbefore, hafter⟩ := h
  rcases List.append_eq_append_iff.1 hsplit with ⟨extra, hword, hgap'⟩ | ⟨extra, hcs, hafter'⟩
  · have hlast : cs ++ extra = before ++ ['A', 'N'] ++ ['D'] := by
      rw [← hword, List.append_assoc]
      rfl
    rcases eq_nil_or_mem_of_append_eq hlast with rfl | hmem
    · rw [List.append_nil] at hword
      exact ⟨before, [], by rw [List.append_nil, hword], hbefore, fun c hc => by simp at hc⟩
    · have hspace := hgap 'D' (by rw [hgap']; exact List.mem_append_left _ hmem)
      exact absurd hspace (by decide)
  · refine ⟨before, extra, hcs, hbefore, fun c hc => hafter c ?_⟩
    rw [hafter']
    exact List.mem_head?_append_of_mem_head? hc

/-- The word `AND` does not go over a colon. -/
theorem HoldsAnd.of_colon {before after : List Char} (h : HoldsAnd (before ++ ':' :: after)) :
    HoldsAnd before ∨ 'N' ∈ after ∧ 'D' ∈ after := by
  obtain ⟨front, back, hsplit, hfront, hback⟩ := h
  rcases List.append_eq_append_iff.1 hsplit with ⟨extra, hword, hcolon⟩ | ⟨extra, hbefore, hback'⟩
  · cases extra with
    | nil =>
      have hspace := hback ':' (by rw [← List.nil_append back, ← hcolon]; rfl)
      exact absurd hspace (by decide)
    | cons d extra =>
      obtain ⟨rfl, rfl⟩ := List.cons.inj hcolon
      rw [List.append_cons before] at hword
      refine .inr ?_
      rcases List.append_eq_append_iff.1 hword with ⟨mid, hmid, hand⟩ | ⟨mid, -, hand⟩
      · rcases eq_nil_or_mem_of_append_eq hmid.symm with rfl | hmem
        · rw [List.nil_append] at hand
          simp [← hand]
        · have hletter : ':' ∈ ['A', 'N', 'D'] := by
            rw [hand]
            exact List.mem_append_left _ hmem
          exact absurd hletter (by decide)
      · simp [hand]
  · refine .inl ⟨front, extra, hbefore, hfront, fun c hc => hback c ?_⟩
    rw [hback']
    exact List.mem_head?_append_of_mem_head? hc

theorem isSpace_of_mem_and {c : Char} (h : c ∈ ['A', 'N', 'D']) : isSpace c = false := by
  rw [List.mem_cons, List.mem_cons, List.mem_singleton] at h
  rcases h with rfl | rfl | rfl <;> rfl

/-- What stands before other characters than those of the word `AND` takes in all of the word. -/
theorem eq_nil_of_and_eq {front word cs tail : List Char} (h : ['A', 'N', 'D'] = front ++ word)
    (hcs : cs = word ++ tail) (hhead : ∀ c ∈ cs.head?, c ∉ ['A', 'N', 'D']) : word = [] := by
  cases word with
  | nil => rfl
  | cons c word =>
    refine absurd ?_ (hhead c (by rw [hcs]; rfl))
    rw [h]
    exact List.mem_append_right _ List.mem_cons_self

theorem notMem_and_of_isSpace {c : Char} (h : isSpace c = true) : c ∉ ['A', 'N', 'D'] := by
  intro hmem
  rw [isSpace_of_mem_and hmem] at h
  cases h

/-- A text in which no separator begins, whatever stands behind it after white space: it does not
end with white space, and no word `AND` stands behind white space in it or at its end. -/
structure Solid (part : List Char) : Prop where
  /-- The text does not end with white space. -/
  last : ∀ c ∈ part.getLast?, isSpace c = false
  /-- No word `AND` stands behind white space and before white space or the end. -/
  noAnd : ∀ before c after, isSpace c = true → (∀ d ∈ after.head?, isSpace d = true) →
    part ≠ before ++ c :: (['A', 'N', 'D'] ++ after)

theorem solid_of_not_holdsAnd {part : List Char} (hand : ¬ HoldsAnd part)
    (hlast : ∀ c ∈ part.getLast?, isSpace c = false) : Solid part where
  last := hlast
  noAnd := by
    rintro before c after hc hafter rfl
    refine hand ⟨before ++ [c], after, by simp, fun d hd => ?_, hafter⟩
    rw [List.getLast?_concat] at hd
    exact Option.some.inj hd ▸ hc

/-- In a solid text no separator begins. -/
theorem Solid.afterAnd?_eq_none {part back t : List Char} (h : Solid part)
    (hback : ∀ c ∈ back.head?, isSpace c = true) (ht : t ≠ []) (hsuffix : t <:+ part) :
    afterAnd? (t ++ back) = none := by
  obtain ⟨front, rfl⟩ := hsuffix
  by_contra hfound
  obtain ⟨rest, hfound⟩ := Option.ne_none_iff_exists'.1 hfound
  obtain ⟨sep, hsplit, ⟨left, right, rfl, hne, hleft, hne', hright⟩, -⟩ :=
    afterAnd?_eq_some_iff.1 hfound
  have hlast' : ∀ c ∈ t.getLast?, isSpace c = false := fun c hc =>
    h.last c (by rwa [List.getLast?_append_of_ne_nil _ ht])
  rw [List.append_assoc, List.append_assoc] at hsplit
  rcases List.append_eq_append_iff.1 hsplit with ⟨extra, hleft', -⟩ | ⟨extra, rfl, hword⟩
  · have hend := List.getLast_mem ht
    have hspace := hleft _ (hleft' ▸ List.mem_append_left _ hend)
    rw [hlast' _ (List.getLast?_eq_some_getLast ht)] at hspace
    cases hspace
  · obtain ⟨pad, d, rfl⟩ := (List.eq_nil_or_concat' left).resolve_left hne
    have hd : isSpace d = true := hleft d List.mem_concat_self
    suffices hmid : ∃ mid, extra = ['A', 'N', 'D'] ++ mid ∧ ∀ c ∈ mid.head?, isSpace c = true by
      obtain ⟨mid, rfl, hmid⟩ := hmid
      exact h.noAnd (front ++ pad) d mid hd hmid (by simp)
    rcases List.append_eq_append_iff.1 hword with ⟨mid, hextra, hright'⟩ | ⟨mid, hextra, hback'⟩
    · refine ⟨mid, hextra, fun c hc => hright c ?_⟩
      have hhead := List.mem_head?_append_of_mem_head? (t := back) hc
      rw [← hright', List.head?_append_of_ne_nil _ hne'] at hhead
      exact List.mem_of_mem_head? hhead
    · obtain rfl : mid = [] :=
        eq_nil_of_and_eq hextra hback' fun c hc => notMem_and_of_isSpace (hback c hc)
      exact ⟨[], by rw [hextra]; simp, fun c hc => by simp at hc⟩

/-- A solid text, a separator and more text. -/
theorem Solid.parts_append_separator {part sep rest : List Char} (h : Solid part)
    (hsep : IsSeparator sep) (hrest : ∀ c ∈ rest.head?, isSpace c = false) :
    parts (part ++ sep ++ rest) = part :: parts rest := by
  refine Trigger.parts_append_separator (fun t => h.afterAnd?_eq_none fun c hc => ?_) hsep hrest
  rw [List.head?_append_of_ne_nil _ hsep.ne_nil] at hc
  exact hsep.isSpace_head c hc

/-! ## One clause -/

theorem clause_of_cut {part before after : List Char} (h : part = before ++ ':' :: after)
    (hfirst : ':' ∉ before) (hkpi : trimmed before ≠ []) :
    clause part = (Condition.parse (String.ofList after)).map fun c =>
      ⟨String.ofList (trimmed before), c⟩ := by
  rw [clause, h, Text.cut_of_notMem hfirst]
  dsimp only
  rw [if_neg (by rwa [List.isEmpty_iff])]

theorem clause_eq_ok_iff {part : List Char} {c : Clause} :
    clause part = .ok c ↔ ∃ before after, part = before ++ ':' :: after ∧ ':' ∉ before ∧
      trimmed before = c.kpiId.toList ∧ trimmed before ≠ [] ∧ c.condition.SpelledBy after := by
  constructor
  · intro h
    cases hcut : Text.cut ':' part with
    | none =>
      rw [clause, hcut] at h
      cases h
    | some halves =>
      obtain ⟨before, after⟩ := halves
      obtain ⟨hpart, hfirst⟩ := Text.cut_eq_some_iff.1 hcut
      have hkpi : trimmed before ≠ [] := by
        intro hblank
        rw [clause, hcut] at h
        dsimp only at h
        rw [hblank] at h
        cases h
      rw [clause_of_cut hpart hfirst hkpi] at h
      obtain ⟨condition, hcondition, rfl⟩ := map_eq_ok_iff.1 h
      rw [Condition.parse_eq_ok_iff, String.toList_ofList] at hcondition
      exact ⟨before, after, hpart, hfirst, (String.toList_ofList ..).symm, hkpi, hcondition⟩
  · rintro ⟨before, after, hpart, hfirst, hid, hkpi, hcondition⟩
    rw [clause_of_cut hpart hfirst hkpi]
    refine map_eq_ok_iff.2 ⟨c.condition, ?_, ?_⟩
    · rwa [Condition.parse_eq_ok_iff, String.toList_ofList]
    · rw [hid, String.ofList_toList]

/-- A part is no clause exactly if it lacks what makes a clause. -/
theorem exists_clause_error_iff {part : List Char} :
    (∃ e, clause part = .error e) ↔ Lacking part := by
  constructor
  · rintro ⟨e, h⟩
    cases hcut : Text.cut ':' part with
    | none => exact .colon (Text.cut_eq_none_iff.1 hcut)
    | some halves =>
      obtain ⟨before, after⟩ := halves
      obtain ⟨rfl, hfirst⟩ := Text.cut_eq_some_iff.1 hcut
      by_cases hkpi : trimmed before = []
      · exact .kpi (Text.allSpace_iff_trimmed_eq_nil.2 hkpi)
      · refine .condition hfirst fun c hc => ?_
        have hread : clause (before ++ ':' :: after) = .ok ⟨String.ofList (trimmed before), c⟩ :=
          clause_eq_ok_iff.2 ⟨before, after, rfl, hfirst, (String.toList_ofList ..).symm, hkpi, hc⟩
        rw [h] at hread
        cases hread
  · intro h
    cases hread : clause part with
    | error e => exact ⟨e, rfl⟩
    | ok c =>
      obtain ⟨before, after, hpart, hfirst, -, hkpi, hcondition⟩ := clause_eq_ok_iff.1 hread
      cases h with
      | colon hnone => exact absurd (by rw [hpart]; simp) hnone
      | @kpi before' after' hblank =>
        have hfirst' : ':' ∉ before' := fun hmem => absurd (hblank ':' hmem) (by decide)
        obtain ⟨rfl, -⟩ := Text.eq_of_first hfirst hfirst' hpart.symm
        exact absurd (Text.allSpace_iff_trimmed_eq_nil.1 hblank) hkpi
      | @condition before' after' hfirst' hnone =>
        obtain ⟨-, rfl⟩ := Text.eq_of_first hfirst hfirst' hpart.symm
        exact absurd hcondition (hnone c.condition)

/-- What the text of a clause is without the white space around it. -/
structure Core (c : Clause) (core : List Char) : Prop where
  /-- There is no white space around it. -/
  tight : Tight core
  /-- It is not empty. -/
  nonempty : core ≠ []
  /-- No separator stands in it. -/
  noAnd : ¬ HoldsAnd core
  /-- The clause is read from it. -/
  reads : clause core = .ok c

theorem Core.solid {c : Clause} {core : List Char} (h : Core c core) : Solid core :=
  solid_of_not_holdsAnd h.noAnd h.tight.last

end Trigger

/-- No condition holds both letters that the word `AND` ends with. -/
theorem Condition.Form.not_and {c : Condition} {word : List Char} (h : c.Form word) :
    ¬ ('n' ∈ word ∧ 'd' ∈ word) := by
  have hname (r : Rating) : ¬ ('n' ∈ r.name.toList ∧ 'd' ∈ r.name.toList) := by
    cases r <;> decide
  have hletter (r : Rating) {gap : List Char} (hgap : AllSpace gap) {sign letter : Char}
      (hsign : letter ≠ sign) (hspace : isSpace letter = false)
      (hmem : letter ∈ r.name.toList ++ gap ++ [sign]) : letter ∈ r.name.toList := by
    rw [List.mem_append, List.mem_append, List.mem_singleton] at hmem
    rcases hmem with (hmem | hmem) | hmem
    · exact hmem
    · rw [hgap letter hmem] at hspace
      cases hspace
    · exact absurd hmem hsign
  cases h with
  | any => decide
  | exact r => exact hname r
  | orWorse r hgap =>
    exact fun hboth => hname r ⟨hletter r hgap (by decide) rfl hboth.1,
      hletter r hgap (by decide) rfl hboth.2⟩
  | orBetter r hgap =>
    exact fun hboth => hname r ⟨hletter r hgap (by decide) rfl hboth.1,
      hletter r hgap (by decide) rfl hboth.2⟩

theorem Condition.SpelledBy.not_and {c : Condition} {cs : List Char} (h : c.SpelledBy cs) :
    ¬ ('N' ∈ cs ∧ 'D' ∈ cs) := by
  obtain ⟨left, word, right, rfl, hleft, hform, hright⟩ := h
  have hletter {letter : Char} (hmem : letter ∈ left ++ word ++ right)
      (hspace : isSpace letter = false) : letter ∈ word := by
    rw [List.mem_append, List.mem_append] at hmem
    rcases hmem with (hmem | hmem) | hmem
    · rw [hleft letter hmem] at hspace
      cases hspace
    · exact hmem
    · rw [hright letter hmem] at hspace
      cases hspace
  exact fun ⟨hN, hD⟩ => hform.not_and
    ⟨List.mem_map_of_mem (hletter hN rfl), List.mem_map_of_mem (hletter hD rfl)⟩

/-- The text of a clause is one core with white space around it. -/
theorem Clause.SpelledBy.exists_core {c : Clause} (hname : c.Nameable) {cs : List Char}
    (h : c.SpelledBy cs) : ∃ left core right, cs = left ++ core ++ right ∧ AllSpace left ∧
      AllSpace right ∧ Trigger.Core c core := by
  obtain ⟨left, gap, _, rfl, hleft, hgap, pad, word, right, rfl, hpad, hform, hright⟩ := h
  have hid : Tight c.kpiId.toList := by
    rw [← hname.trimmed, Text.trim, String.toList_ofList]
    exact Text.tight_trimmed _
  have hne : c.kpiId.toList ≠ [] := fun heq => hname.nonempty (String.toList_eq_nil_iff.1 heq)
  have htrimmed : trimmed (c.kpiId.toList ++ gap) = c.kpiId.toList :=
    Text.trimmed_padded Text.allSpace_nil hid hgap
  have hword : Tight word := Text.tight_of_map_toLower hform.tight
  have hword' : word ≠ [] := fun heq => hform.ne_nil (by rw [heq, List.map_nil])
  have hcondition : c.condition.SpelledBy (pad ++ word) :=
    ⟨pad, word, [], (List.append_nil _).symm, hpad, hform, Text.allSpace_nil⟩
  refine ⟨left, c.kpiId.toList ++ gap ++ ':' :: (pad ++ word), right, by simp, hleft, hright, ?_⟩
  constructor
  · constructor
    · intro d hd
      rw [List.append_assoc, List.head?_append_of_ne_nil _ hne] at hd
      exact hid.head d hd
    · intro d hd
      rw [List.append_cons, ← List.append_assoc, List.getLast?_append_of_ne_nil _ hword'] at hd
      exact hword.last d hd
  · simp
  · intro hand
    rcases hand.of_colon with hbefore | hboth
    · exact hname.noAnd (hbefore.of_append_space hgap)
    · exact hcondition.not_and hboth
  · refine Trigger.clause_eq_ok_iff.2 ⟨c.kpiId.toList ++ gap, pad ++ word, rfl, ?_, ?_, ?_, ?_⟩
    · exact List.not_mem_append hname.noColon fun hmem => absurd (hgap ':' hmem) (by decide)
    · exact htrimmed
    · rwa [htrimmed]
    · exact hcondition

namespace Trigger

/-! ## All clauses -/

/-- The text of a list of clauses is a core with white space around it, and the parts of the core
are read as the clauses. -/
theorem SpelledBy.exists_core {clauses : List Clause} {cs : List Char}
    (h : SpelledBy clauses cs) (hnames : ∀ c ∈ clauses, c.Nameable) :
    ∃ left core right, cs = left ++ core ++ right ∧ AllSpace left ∧ AllSpace right ∧ Tight core ∧
      core ≠ [] ∧ (parts core).mapM clause = .ok clauses := by
  induction h with
  | one hc =>
    obtain ⟨left, core, right, hcs, hleft, hright, hcore⟩ :=
      hc.exists_core (hnames _ List.mem_cons_self)
    refine ⟨left, core, right, hcs, hleft, hright, hcore.tight, hcore.nonempty, ?_⟩
    have hparts : parts core = [core] := by
      refine parts_eq_singleton fun t ht hsuffix => ?_
      have hnone := hcore.solid.afterAnd?_eq_none (fun d (hd : d ∈ [].head?) => by simp at hd) ht
        hsuffix
      rwa [List.append_nil] at hnone
    rw [hparts]
    exact mapM_eq_ok_iff.2 (.cons hcore.reads .nil)
  | @more c clauses cs sep rest hc hsep hrest ih =>
    obtain ⟨hname, hnames⟩ := List.forall_mem_cons.1 hnames
    obtain ⟨left, core, right, rfl, hleft, hright, hcore⟩ := hc.exists_core hname
    obtain ⟨left', core', right', rfl, hleft', hright', htight, hne, hclauses⟩ := ih hnames
    -- The white space at the inner ends of the two texts belongs to the separator.
    have hsep' : IsSeparator (right ++ sep ++ left') := hsep.pad hright hleft'
    refine ⟨left, core ++ (right ++ sep ++ left') ++ core', right', by simp, hleft, hright',
      ⟨?_, ?_⟩, ?_, ?_⟩
    · intro d hd
      rw [List.append_assoc, List.head?_append_of_ne_nil _ hcore.nonempty] at hd
      exact hcore.tight.head d hd
    · intro d hd
      rw [List.getLast?_append_of_ne_nil _ hne] at hd
      exact htight.last d hd
    · exact List.append_ne_nil_of_right_ne_nil _ hne
    · rw [hcore.solid.parts_append_separator hsep' htight.head]
      exact mapM_eq_ok_iff.2 (.cons hcore.reads (mapM_eq_ok_iff.1 hclauses))

/-- A text is read part by part; a blank one has a part that is no clause. -/
theorem parse_eq_ok_iff {text : String} {clauses : List Clause} :
    parse text = .ok clauses ↔ (parts (trimmed text.toList)).mapM clause = .ok clauses := by
  by_cases hblank : trimmed text.toList = []
  · rw [parse, hblank, parts_nil]
    constructor
    · intro h
      cases h
    · intro h
      cases h
  · rw [parse, if_neg (by rwa [List.isEmpty_iff])]

theorem parse_of_spelledBy {clauses : List Clause} (hnames : ∀ c ∈ clauses, c.Nameable)
    {text : String} (h : SpelledBy clauses text.toList) : parse text = .ok clauses := by
  obtain ⟨left, core, right, hsplit, hleft, hright, htight, -, hclauses⟩ := h.exists_core hnames
  rwa [parse_eq_ok_iff, hsplit, Text.trimmed_padded hleft htight hright]

/-- A text is no trigger exactly if one of its parts is no clause. -/
theorem exists_parse_error_iff {text : String} :
    (∃ e, parse text = .error e) ↔ ∃ part ∈ parts (trimmed text.toList), Lacking part := by
  simp only [← exists_clause_error_iff]
  constructor
  · rintro ⟨e, he⟩
    by_contra hnone
    push Not at hnone
    have hreads : ∀ part ∈ parts (trimmed text.toList), ∃ c, clause part = .ok c := by
      intro part hpart
      cases hread : clause part with
      | ok c => exact ⟨c, rfl⟩
      | error e => exact absurd hread (hnone part hpart e)
    obtain ⟨clauses, hclauses⟩ := exists_mapM_eq_ok hreads
    rw [parse_eq_ok_iff.2 hclauses] at he
    cases he
  · rintro ⟨part, hpart, e, he⟩
    cases hall : parse text with
    | error e => exact ⟨e, rfl⟩
    | ok clauses =>
      obtain ⟨c, hc⟩ := exists_of_mapM_eq_ok (parse_eq_ok_iff.1 hall) hpart
      rw [he] at hc
      cases hc

/-! ## Clauses that hold -/

theorem holds_iff {c : Condition} {rating : Rating} : c.holds rating = true ↔ c.Admits rating := by
  cases c with
  | exact r =>
    rw [Condition.holds, decide_eq_true_iff]
    exact ⟨fun h => h ▸ .exact r, fun h => by cases h; rfl⟩
  | orWorse r =>
    rw [Condition.holds, decide_eq_true_iff]
    exact ⟨.orWorse, fun h => by cases h; assumption⟩
  | orBetter r =>
    rw [Condition.holds, decide_eq_true_iff]
    exact ⟨.orBetter, fun h => by cases h; assumption⟩
  | any => exact ⟨fun _ => .any rating, fun _ => rfl⟩

/-- Clauses fire if each KPI has a rating that its condition admits. -/
theorem fires_iff_admits {clauses : List Clause} {rating? : String → Option Rating} :
    fires clauses rating? = true ↔ ∀ c ∈ clauses, ∃ rating,
      rating? (lower c.kpiId) = some rating ∧ c.condition.Admits rating := by
  rw [fires, List.all_eq_true]
  refine forall₂_congr fun c _ => ?_
  cases rating? (lower c.kpiId) with
  | none => simp [Condition.holdsFor]
  | some rating => simp [Condition.holdsFor, holds_iff]

/-- The texts of a list of clauses are read as these clauses in this order, and the clauses fire if
each KPI is rated, in lower case, and its rating is admitted. A text is no trigger exactly if
between its separators, the white space around it left aside, stands a part that is no clause. -/
theorem parse_reads_clauses :
    (∀ (clauses : List Clause) (text : String), (∀ c ∈ clauses, c.Nameable) →
      SpelledBy clauses text.toList → parse text = .ok clauses ∧
        ∀ rating? : String → Option Rating, fires clauses rating? = true ↔
          ∀ c ∈ clauses, ∃ rating,
            rating? (lower c.kpiId) = some rating ∧ c.condition.Admits rating) ∧
    ∀ text : String, ∃ ps, (∀ qs, Splits (trimmed text.toList) qs ↔ qs = ps) ∧
      ((∃ e, parse text = .error e) ↔ ∃ part ∈ ps, Lacking part) := by
  refine ⟨fun clauses text hnames htext => ⟨?_, fun rating? => fires_iff_admits⟩, fun text => ?_⟩
  · exact parse_of_spelledBy hnames htext
  · exact ⟨_, fun qs => splits_iff.trans eq_comm, exists_parse_error_iff⟩

/-- Ids that hold the letters of `AND` or a space are read, and white space and letter case do not
count. -/
theorem parse_brandLift :
    parse "  BRAND lift : Poor\t- \n AND  AND-rate:ANY " =
        .ok [⟨"BRAND lift", .orWorse .poor⟩, ⟨"AND-rate", .any⟩] ∧
      ∀ rating? : String → Option Rating,
        fires [⟨"BRAND lift", .orWorse .poor⟩, ⟨"AND-rate", .any⟩] rating? = true ↔
          ∀ c ∈ [⟨"BRAND lift", .orWorse .poor⟩, (⟨"AND-rate", .any⟩ : Clause)], ∃ rating,
            rating? (lower c.kpiId) = some rating ∧ c.condition.Admits rating := by
  refine parse_reads_clauses.1 _ _ (fun c hc => ?_) ?_
  · rw [List.mem_cons, List.mem_singleton] at hc
    rcases hc with rfl | rfl <;> exact ⟨by decide, by decide, by decide, by decide⟩
  · have htab : AllSpace ['\t'] := Text.allSpace_of_all rfl
    have hlift : Condition.SpelledBy (.orWorse .poor) " Poor\t- \n".toList :=
      ⟨[' '], "Poor\t-".toList, " \n".toList, rfl, Text.allSpace_of_all rfl,
        .orWorse .poor htab, Text.allSpace_of_all rfl⟩
    have hrate : Condition.SpelledBy .any "ANY ".toList :=
      ⟨[], "ANY".toList, [' '], rfl, Text.allSpace_nil, .any, Text.allSpace_of_all rfl⟩
    have hsep : IsSeparator " AND  ".toList :=
      ⟨[' '], "  ".toList, rfl, by decide, Text.allSpace_of_all rfl, by decide,
        Text.allSpace_of_all rfl⟩
    exact .more ⟨"  ".toList, [' '], " Poor\t- \n".toList, rfl, Text.allSpace_of_all rfl,
      Text.allSpace_of_all rfl, hlift⟩ hsep
      (.one ⟨[], [], "ANY ".toList, rfl, Text.allSpace_nil, Text.allSpace_nil, hrate⟩)

end Trigger

end Scorecard
