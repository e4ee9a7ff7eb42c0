import Scorecard.Proofs.Trigger.Join

/-!
# A misplaced `AND`

The word `AND` is misplaced at the front of a trigger, at its end, and twice between two clauses. At
the end it is never read, since no condition ends with it. At the other places it is not told from
the words of an id: if such a text is read at all, the id of a clause begins with the word. It is
read so before each trigger that does not begin with it already, and once more between two triggers.
-/

namespace Scorecard.Trigger

open Text (AllSpace isSpace trimmed)

/-- The texts with the word `AND` where no clause ends or none begins. -/
inductive Misplaced : List Char → Prop
  /-- At the front, with white space behind it. -/
  | leading {c : Char} {rest : List Char} (hc : isSpace c = true) :
    Misplaced (['A', 'N', 'D'] ++ c :: rest)
  /-- At the end, behind white space. -/
  | trailing {front : List Char} {c : Char} (hc : isSpace c = true) :
    Misplaced (front ++ [c] ++ ['A', 'N', 'D'])
  /-- Twice, with nothing but white space between. -/
  | doubled {before gap after : List Char} (hbefore : ∀ c ∈ before.getLast?, isSpace c = true)
    (hne : gap ≠ []) (hgap : AllSpace gap) (hafter : ∀ c ∈ after.head?, isSpace c = true) :
    Misplaced (before ++ ['A', 'N', 'D'] ++ gap ++ ['A', 'N', 'D'] ++ after)

/-- The texts that begin with the word `AND` and a colon or white space behind it. -/
def AndFirst (cs : List Char) : Prop :=
  ∃ c rest, cs = ['A', 'N', 'D'] ++ c :: rest ∧ (isSpace c = true ∨ c = ':')

/-- The texts with the word `AND` where an id should begin: at the front or behind a separator. -/
def AndForId (cs : List Char) : Prop :=
  AndFirst cs ∨
    ∃ before sep rest, cs = before ++ sep ++ rest ∧ IsSeparator sep ∧ AndFirst rest

/-! ## Places of the word -/

/-- The id of a clause begins with the word `AND` exactly if the clause does. -/
theorem beginsWithAnd_iff {p : List Char} {c : Clause} (hhead : ∀ d ∈ p.head?, isSpace d = false)
    (h : clause p = .ok c) : BeginsWithAnd c.kpiId.toList ↔ AndFirst p := by
  obtain ⟨gap, after, rfl, hgap, hcolon, -⟩ := exists_id_first hhead h
  constructor
  · rintro ⟨rest, hid, hrest⟩
    rw [hid]
    cases rest with
    | cons d rest => exact ⟨d, rest ++ gap ++ ':' :: after, by simp, .inl (hrest d rfl)⟩
    | nil =>
      cases gap with
      | nil => exact ⟨':', after, by simp, .inr rfl⟩
      | cons d gap => exact ⟨d, gap ++ ':' :: after, by simp, .inl (hgap d List.mem_cons_self)⟩
  · rintro ⟨d, rest, hfirst, hd⟩
    rw [List.append_assoc] at hfirst
    rcases List.append_eq_append_iff.1 hfirst with ⟨word, hword, hbehind⟩ | ⟨word, hid, hbehind⟩
    · obtain rfl : word = [] := by
        refine eq_nil_of_and_eq hword hbehind fun e he => ?_
        cases gap with
        | nil => exact Option.some.inj he ▸ (by decide)
        | cons g gap =>
          exact Option.some.inj he ▸ notMem_and_of_isSpace (hgap g List.mem_cons_self)
      exact ⟨[], by simp [hword], fun e he => by simp at he⟩
    · refine ⟨word, hid, fun e he => ?_⟩
      have hd' : d = e := by
        have hhead' := List.mem_head?_append_of_mem_head? (t := gap ++ ':' :: after) he
        rw [← hbehind] at hhead'
        exact Option.some.inj hhead'
      subst hd'
      refine hd.resolve_right fun heq => hcolon ?_
      rw [hid, ← heq]
      exact List.mem_append_right _ (List.mem_of_mem_head? he)

theorem AndFirst.append {cs : List Char} (h : AndFirst cs) (behind : List Char) :
    AndFirst (cs ++ behind) := by
  obtain ⟨c, rest, rfl, hc⟩ := h
  exact ⟨c, rest ++ behind, by simp, hc⟩

theorem AndForId.behind {cs sep : List Char} (h : AndForId cs) (hsep : IsSeparator sep)
    (front : List Char) : AndForId (front ++ sep ++ cs) := by
  rcases h with hfirst | ⟨before, sep', rest, rfl, hsep', hrest⟩
  · exact .inr ⟨front, sep, cs, rfl, hsep, hfirst⟩
  · exact .inr ⟨front ++ sep ++ before, sep', rest, by simp, hsep', hrest⟩

/-- A part that begins with the word has it where an id should begin. -/
theorem andForId_of_mem_parts {cs p : List Char} (hp : p ∈ parts cs) (hand : AndFirst p) :
    AndForId cs := by
  have hsplits := splits_parts cs
  generalize parts cs = ps at hsplits hp
  induction hsplits with
  | last =>
    rw [← List.mem_singleton.1 hp]
    exact .inl hand
  | @more part sep rest ps hsep _ _ _ ih =>
    rcases List.mem_cons.1 hp with rfl | hp
    · rw [List.append_assoc]
      exact .inl (hand.append _)
    · exact (ih hp).behind hsep part

/-- A text is cut behind the word at its front, or the part that is cut off begins with the word. -/
theorem AndFirst.of_append_separator {part sep rest : List Char} (hsep : IsSeparator sep)
    (h : AndFirst (part ++ sep ++ rest)) : AndFirst part ∨ part = ['A', 'N', 'D'] := by
  obtain ⟨d, tail, hcs, hd⟩ := h
  rw [List.append_assoc] at hcs
  rcases List.append_eq_append_iff.1 hcs with ⟨word, hword, hbehind⟩ | ⟨word, rfl, hbehind⟩
  · obtain rfl : word = [] := by
      refine eq_nil_of_and_eq hword hbehind fun e he => notMem_and_of_isSpace ?_
      rw [List.head?_append_of_ne_nil _ hsep.ne_nil] at he
      exact hsep.isSpace_head e he
    exact .inr (by rw [hword, List.append_nil])
  · cases word with
    | nil => exact .inr (List.append_nil _)
    | cons e word =>
      obtain rfl : d = e := (List.cons.inj hbehind).1
      exact .inl ⟨d, word, rfl, hd⟩

/-- A separator that does not begin before the one at the front of a text ends with it, has its word
at the front of what follows, or stands in what follows. -/
theorem IsSeparator.overlap {sep sep' mid rest rest' : List Char} (hsep : IsSeparator sep)
    (hsep' : IsSeparator sep') (hrest : ∀ c ∈ rest.head?, isSpace c = false)
    (hrest' : ∀ c ∈ rest'.head?, isSpace c = false) (h : sep ++ rest = mid ++ sep' ++ rest') :
    rest = rest' ∨
      (∃ right, right ≠ [] ∧ AllSpace right ∧ rest = ['A', 'N', 'D'] ++ right ++ rest') ∨
        ∃ mid', rest = mid' ++ sep' ++ rest' := by
  obtain ⟨left, right, rfl, -, hleft, -, hright⟩ := hsep
  obtain ⟨left', right', rfl, hne, hleft', hne', hright'⟩ := hsep'
  simp only [List.append_assoc] at h
  have hword {pad : List Char} (hpad : AllSpace pad)
      (hover : pad ++ rest = left' ++ (['A', 'N', 'D'] ++ (right' ++ rest'))) :
      ∃ right, right ≠ [] ∧ AllSpace right ∧ rest = ['A', 'N', 'D'] ++ right ++ rest' := by
    refine ⟨right', hne', hright', ?_⟩
    rw [Text.eq_of_space_append hpad hleft' hrest (isSpace_head_and _) hover, List.append_assoc]
  -- The second separator begins behind the first word, in it, or in the white space before it.
  rcases List.append_eq_append_iff.1 h with ⟨m, -, hm⟩ | ⟨pad, hpad, hm⟩
  · rcases List.append_eq_append_iff.1 hm with ⟨n, -, hn⟩ | ⟨n, hand, hn⟩
    · rcases List.append_eq_append_iff.1 hn with ⟨mid', -, hbehind⟩ | ⟨pad, hpad, hover⟩
      · exact .inr (.inr ⟨mid', by rw [hbehind]; simp⟩)
      · refine .inr (.inl (hword (fun c hc => hright c ?_) hover.symm))
        rw [hpad]
        exact List.mem_append_right _ hc
    · obtain rfl : n = [] := by
        refine eq_nil_of_and_eq hand hn fun c hc => notMem_and_of_isSpace (hleft' c ?_)
        rw [List.head?_append_of_ne_nil _ hne] at hc
        exact List.mem_of_mem_head? hc
      exact .inr (.inl (hword hright hn.symm))
  · have hspace : AllSpace pad := by
      rw [hpad] at hleft
      exact (List.forall_mem_append.1 hleft).2
    have hwords : ['A', 'N', 'D'] ++ (right' ++ rest') = ['A', 'N', 'D'] ++ (right ++ rest) :=
      Text.eq_of_space_append hleft' hspace (isSpace_head_and _) (isSpace_head_and _) hm
    have hbehind := List.append_cancel_left hwords
    exact .inl (Text.eq_of_space_append hright hright' hrest hrest' hbehind.symm)

/-- What stands behind a separator that does not begin before the one at the front of a text is a
place for an id in what follows that one. -/
theorem IsSeparator.andForId_rest {sep sep' mid rest rest' : List Char} (hsep : IsSeparator sep)
    (hsep' : IsSeparator sep') (hlong : ∀ c ∈ rest.head?, isSpace c = false)
    (hand : AndFirst rest') (h : sep ++ rest = mid ++ sep' ++ rest') : AndForId rest := by
  have hhead : ∀ c ∈ rest'.head?, isSpace c = false := by
    obtain ⟨d, tail, rfl, -⟩ := hand
    exact isSpace_head_and _
  rcases hsep.overlap hsep' hlong hhead h with rfl | ⟨right, hne, hright, rfl⟩ | ⟨mid', rfl⟩
  · exact .inl hand
  · obtain ⟨d, right, rfl⟩ := List.exists_cons_of_ne_nil hne
    exact .inl ⟨d, right ++ rest', by simp, .inl (hright d List.mem_cons_self)⟩
  · exact .inr ⟨mid', sep', rest', rfl, hsep', hand⟩

/-- Where an id should begin with the word, a part begins with it, or is the word alone. -/
theorem exists_part_of_andForId {cs : List Char} (h : AndForId cs) :
    ∃ p ∈ parts cs, AndFirst p ∨ p = ['A', 'N', 'D'] := by
  have hsplits := splits_parts cs
  generalize parts cs = ps at hsplits ⊢
  induction hsplits with
  | @last cs hnone =>
    rcases h with hand | ⟨before, sep, rest, hcs, hsep, -⟩
    · exact ⟨cs, List.mem_cons_self, .inl hand⟩
    · exact absurd hcs (hnone before sep rest hsep)
  | @more part sep rest ps hsep hfirst hlong _ ih =>
    rcases h with hand | ⟨before, sep', rest', hcs, hsep', hand⟩
    · exact ⟨part, List.mem_cons_self, hand.of_append_separator hsep⟩
    · have hlength := hfirst before sep' rest' hsep' hcs
      obtain ⟨mid, rfl⟩ : part <+: before := by
        rw [List.append_assoc, List.append_assoc before] at hcs
        exact List.prefix_of_prefix_length_le (hcs ▸ List.prefix_append part (sep ++ rest))
          (List.prefix_append before _) hlength
      have hbehind : sep ++ rest = mid ++ sep' ++ rest' := by
        simpa only [List.append_assoc, List.append_cancel_left_eq] using hcs
      obtain ⟨p, hp, hbegins⟩ := ih (hsep.andForId_rest hsep' hlong hand hbehind)
      exact ⟨p, List.mem_cons_of_mem _ hp, hbegins⟩

/-- Before any text, and white space between, the word is misplaced. -/
theorem misplaced_first {gap : List Char} (hne : gap ≠ []) (hgap : AllSpace gap)
    (cs : List Char) : Misplaced (['A', 'N', 'D'] ++ gap ++ cs) := by
  obtain ⟨c, gap, rfl⟩ := List.exists_cons_of_ne_nil hne
  rw [List.append_assoc]
  exact .leading (hgap c List.mem_cons_self)

/-- Behind any text and a separator it is misplaced as well. -/
theorem misplaced_behind {sep gap : List Char} (hsep : IsSeparator sep) (hne : gap ≠ [])
    (hgap : AllSpace gap) (front cs : List Char) :
    Misplaced (front ++ sep ++ (['A', 'N', 'D'] ++ gap ++ cs)) := by
  obtain ⟨left, right, rfl, hneLeft, hleft, hneRight, hright⟩ := hsep
  have hdoubled : Misplaced (front ++ left ++ ['A', 'N', 'D'] ++ right ++ ['A', 'N', 'D'] ++
      (gap ++ cs)) := by
    refine .doubled (fun c hc => hleft c ?_) hneRight hright fun c hc => hgap c ?_
    · rw [List.getLast?_append_of_ne_nil _ hneLeft] at hc
      exact List.mem_of_getLast? hc
    · rw [List.head?_append_of_ne_nil _ hne] at hc
      exact List.mem_of_mem_head? hc
  simpa only [List.append_assoc] using hdoubled

/-- A misplaced word stands at the end or where an id should begin. -/
theorem Misplaced.cases_place {cs : List Char} (h : Misplaced cs) :
    (∃ front, cs = front ++ ['A', 'N', 'D']) ∨ AndForId cs := by
  cases h with
  | @leading c rest hc => exact .inr (.inl ⟨c, rest, rfl, .inl hc⟩)
  | trailing => exact .inl ⟨_, rfl⟩
  | @doubled before gap after hbefore hne hgap hafter =>
    cases after with
    | nil => exact .inl ⟨_, List.append_nil _⟩
    | cons d after =>
      rcases List.eq_nil_or_concat' before with rfl | ⟨before, c, rfl⟩
      · obtain ⟨e, gap, rfl⟩ := List.exists_cons_of_ne_nil hne
        exact .inr (.inl ⟨e, gap ++ ['A', 'N', 'D'] ++ d :: after, by simp,
          .inl (hgap e List.mem_cons_self)⟩)
      · have hc : isSpace c = true := hbefore c (List.getLast?_concat ..)
        refine .inr (.inr ⟨before, [c] ++ ['A', 'N', 'D'] ++ gap, ['A', 'N', 'D'] ++ d :: after,
          by simp, ?_, d, after, rfl, .inl (hafter d rfl)⟩)
        exact ⟨[c], gap, rfl, List.cons_ne_nil _ _, List.forall_mem_singleton.2 hc, hne, hgap⟩

/-! ## Triggers with the word -/

/-- An id begins with the word exactly if the word stands where an id should begin. -/
theorem exists_id_beginsWithAnd_iff {text : String} {clauses : List Clause}
    (h : parse text = .ok clauses) : (∃ c ∈ clauses, BeginsWithAnd c.kpiId.toList) ↔
      AndForId (trimmed text.toList) := by
  rw [parse_eq_ok_iff] at h
  have hhead {p : List Char} (hp : p ∈ parts (trimmed text.toList)) :
      ∀ d ∈ p.head?, isSpace d = false :=
    isSpace_head_of_mem_parts (Text.tight_trimmed _).head hp
  constructor
  · rintro ⟨c, hc, hbegins⟩
    obtain ⟨p, hp, hread⟩ := (mem_iff_of_mapM_eq_ok h).1 hc
    exact andForId_of_mem_parts hp ((beginsWithAnd_iff (hhead hp) hread).1 hbegins)
  · intro hplace
    obtain ⟨p, hp, hbegins⟩ := exists_part_of_andForId hplace
    obtain ⟨c, hread⟩ := exists_of_mapM_eq_ok h hp
    have hand : AndFirst p := by
      refine hbegins.resolve_right fun hword => ?_
      have hsuffix : p <:+ [] ++ ['A', 'N', 'D'] := hword ▸ List.suffix_refl _
      exact clause_ne_ok_of_suffix hsuffix hread
    exact ⟨c, (mem_iff_of_mapM_eq_ok h).2 ⟨p, hp, hread⟩,
      (beginsWithAnd_iff (hhead hp) hread).2 hand⟩

/-- A text with a misplaced word is no trigger, or an id begins with the word. -/
theorem exists_error_iff_of_misplaced {text : String} (h : Misplaced (trimmed text.toList)) :
    (∃ e, parse text = .error e) ↔
      ¬ ∃ clauses, parse text = .ok clauses ∧ ∃ c ∈ clauses, BeginsWithAnd c.kpiId.toList := by
  cases hread : parse text with
  | error e => simp
  | ok clauses =>
    have hplace : AndForId (trimmed text.toList) := by
      refine h.cases_place.resolve_left fun ⟨front, hlast⟩ => ?_
      obtain ⟨e, he⟩ := exists_error_of_and_last hlast
      rw [hread] at he
      cases he
    have hid := (exists_id_beginsWithAnd_iff hread).2 hplace
    refine iff_of_false ?_ (not_not_intro ⟨clauses, rfl, hid⟩)
    rintro ⟨e, he⟩
    cases he

/-- A text that ends with the letters of `AND` is no trigger. A text with a misplaced word is no
trigger exactly if it is not read with an id that begins with the word. In a trigger there is such
an id exactly if the word stands where an id should begin. Before a trigger that does not begin with
the word itself, the word is read as a part of the first id, also behind another trigger and a
separator. -/
theorem parse_misplaced_and (text : String) :
    (∀ front, trimmed text.toList = front ++ ['A', 'N', 'D'] → ∃ e, parse text = .error e) ∧
    (Misplaced (trimmed text.toList) → ((∃ e, parse text = .error e) ↔
      ¬ ∃ clauses, parse text = .ok clauses ∧ ∃ c ∈ clauses, BeginsWithAnd c.kpiId.toList)) ∧
    (∀ clauses, parse text = .ok clauses →
      ((∃ c ∈ clauses, BeginsWithAnd c.kpiId.toList) ↔ AndForId (trimmed text.toList))) ∧
    ∀ (c : Clause) (clauses : List Clause) (gap : List Char), parse text = .ok (c :: clauses) →
      ¬ BeginsWithAnd (trimmed text.toList) → gap ≠ [] → AllSpace gap →
      (∀ longer : String,
        trimmed longer.toList = ['A', 'N', 'D'] ++ gap ++ trimmed text.toList →
        Misplaced (trimmed longer.toList) ∧ parse longer = .ok (c.afterAnd gap :: clauses)) ∧
      ∀ (left longer : String) (ls : List Clause) (sep : List Char), parse left = .ok ls →
        IsSeparator sep →
        trimmed longer.toList =
          trimmed left.toList ++ sep ++ (['A', 'N', 'D'] ++ gap ++ trimmed text.toList) →
        Misplaced (trimmed longer.toList) ∧
          parse longer = .ok (ls ++ c.afterAnd gap :: clauses) := by
  refine ⟨fun front => exists_error_of_and_last, exists_error_iff_of_misplaced,
    fun clauses => exists_id_beginsWithAnd_iff, fun c clauses gap htext hand hne hgap =>
      ⟨fun longer hlonger => ⟨?_, parse_afterAnd htext hgap hand hlonger⟩,
        fun left longer ls sep hleft hsep hlonger =>
          ⟨?_, parse_join_afterAnd hleft htext hsep hgap hand hlonger⟩⟩⟩
  · exact hlonger ▸ misplaced_first hne hgap _
  · exact hlonger ▸ misplaced_behind hsep hne hgap _ _

/-- A word `AND` before a clause is read as the first word of the id. -/
theorem not_parse_misplaced_and_error :
    ¬ ∀ text : String, Misplaced (trimmed text.toList) → ∃ e, parse text = .error e := by
  intro h
  have hnames : ∀ c ∈ [(⟨"a", .exact .good⟩ : Clause)], c.Nameable :=
    List.forall_mem_singleton.2 ⟨by decide, by decide, by decide, by decide⟩
  have hgood : SpelledBy [⟨"a", .exact .good⟩] "a:good".toList :=
    .one ⟨[], [], "good".toList, rfl, Text.allSpace_nil, Text.allSpace_nil,
      [], "good".toList, [], rfl, Text.allSpace_nil, .exact .good, Text.allSpace_nil⟩
  have hand : ¬ BeginsWithAnd (trimmed "a:good".toList) := by
    rintro ⟨rest, hsplit, -⟩
    exact absurd (List.cons.inj hsplit).1 (by decide)
  have hspace : AllSpace [' '] := Text.allSpace_of_all rfl
  have htext : trimmed "AND a:good".toList =
      ['A', 'N', 'D'] ++ [' '] ++ trimmed "a:good".toList := by decide
  have hread : parse "AND a:good" = .ok [Clause.afterAnd [' '] ⟨"a", .exact .good⟩] :=
    parse_afterAnd (parse_of_spelledBy hnames hgood) hspace hand htext
  obtain ⟨e, he⟩ := h "AND a:good" (htext ▸ misplaced_first (List.cons_ne_nil _ _) hspace _)
  rw [hread] at he
  cases he

end Scorecard.Trigger
