import Scorecard.Proofs.Expr.Lexer
import Scorecard.Proofs.Sequence

/-!
# Decompositions of texts into tokens

A decomposition of a text is a list of tokens that stand in it one after the other, each of them as
long as it can be, with nothing but white space outside them. That says what `lex` is to find
without saying how: a text has one decomposition at most, `lex` finds it, and where `lex` gives an
error there is none.
-/

namespace Scorecard.Expr

open Scorecard.Text (isNameChar isNameStart isSpace)

/-! ## Tokens in their places -/

/-- The position of the first character after a token. -/
def Lexeme.stop (l : Lexeme) : Nat :=
  l.position + l.token.text.length

/-- `Decomposes start cs ls`: the tokens `ls` stand one after the other in the characters `cs`, the
first of which is at `start`, and what is outside them is white space. -/
structure Decomposes (start : Nat) (cs : List Char) (ls : List Lexeme) : Prop where
  /-- The positions increase, and no two tokens overlap. -/
  ordered : ls.Pairwise fun l m => l.position < m.position ∧ l.stop ≤ m.position
  /-- Each token is what the text has at its position. -/
  written : ∀ l ∈ ls, ∃ before tail after,
    cs = before ++ tail ∧ l.position = start + before.length ∧ Leads l.token after tail
  /-- A character that is in no token is white space. -/
  outside : ∀ before c after, cs = before ++ c :: after →
    isSpace c = true ∨
      ∃ l ∈ ls, l.position ≤ start + before.length ∧ start + before.length < l.stop

theorem Leads.unique {t u : Token} {after others cs : List Char} (h : Leads t after cs)
    (h' : Leads u others cs) : t = u ∧ after = others := by
  have heq := h.front?_eq.symm.trans h'.front?_eq
  simpa using heq

/-! ## A decomposition from its first token on -/

section Decomposes

variable {start : Nat} {cs : List Char} {ls : List Lexeme}

theorem Decomposes.le_position (h : Decomposes start cs ls) {l : Lexeme} (hl : l ∈ ls) :
    start ≤ l.position := by
  obtain ⟨before, -, -, -, hposition, -⟩ := h.written l hl
  omega

theorem decomposes_nil : Decomposes start [] ls ↔ ls = [] := by
  constructor
  · intro h
    refine List.eq_nil_iff_forall_not_mem.2 fun l hl => ?_
    obtain ⟨before, tail, after, heq, -, hleads⟩ := h.written l hl
    obtain ⟨c, others, rfl, -⟩ := hleads.exists_cons
    simp at heq
  · rintro rfl
    exact ⟨.nil, by simp, by simp⟩

/-- White space before the first token is passed over. -/
theorem decomposes_space {c : Char} (hc : isSpace c = true) :
    Decomposes start (c :: cs) ls ↔ Decomposes (start + 1) cs ls := by
  constructor
  · intro h
    refine ⟨h.ordered, fun l hl => ?_, fun before d after heq => ?_⟩
    · obtain ⟨before, tail, after, heq, hposition, hleads⟩ := h.written l hl
      cases before with
      | nil =>
        -- A token at the start would start with white space.
        obtain ⟨d, others, htail, hd⟩ := hleads.exists_cons
        obtain ⟨rfl, -⟩ : c = d ∧ cs = others := by simpa [htail] using heq
        rw [hc] at hd
        cases hd
      | cons d before =>
        refine ⟨before, tail, after, (List.cons.inj heq).2, ?_, hleads⟩
        rw [hposition, List.length_cons]
        omega
    · have hcovered := h.outside (c :: before) d after (by rw [heq, List.cons_append])
      rwa [List.length_cons, Nat.add_comm before.length, ← Nat.add_assoc] at hcovered
  · intro h
    refine ⟨h.ordered, fun l hl => ?_, fun before d after heq => ?_⟩
    · obtain ⟨before, tail, after, heq, hposition, hleads⟩ := h.written l hl
      refine ⟨c :: before, tail, after, by rw [heq, List.cons_append], ?_, hleads⟩
      rw [hposition, List.length_cons]
      omega
    · cases before with
      | nil =>
        obtain ⟨rfl, -⟩ : c = d ∧ cs = after := by simpa using heq
        exact .inl hc
      | cons b before =>
        have hcovered := h.outside before d after (List.cons.inj heq).2
        rwa [List.length_cons, Nat.add_comm before.length, ← Nat.add_assoc]

/-- Of two ways to cut a list the one with the shorter first part cuts the other's first part. -/
theorem exists_append_of_append_eq {α : Type} {as bs cs ds : List α} (h : as ++ bs = cs ++ ds)
    (hle : as.length ≤ cs.length) : ∃ ms, cs = as ++ ms ∧ bs = ms ++ ds := by
  obtain ⟨ms, rfl⟩ := List.prefix_of_prefix_length_le (List.prefix_append as bs)
    (h ▸ List.prefix_append cs ds) hle
  exact ⟨ms, rfl, List.append_cancel_left (by rw [h, List.append_assoc])⟩

/-- The token at the start is the first of a decomposition. -/
theorem Decomposes.eq_cons {t : Token} {rest : List Char} (hleads : Leads t rest cs)
    (h : Decomposes start cs ls) : ∃ ls', ls = ⟨t, start⟩ :: ls' := by
  obtain ⟨c, others, hcs, hc⟩ := hleads.exists_cons
  obtain ⟨l, hl, hle, -⟩ : ∃ l ∈ ls, l.position ≤ start ∧ start < l.stop := by
    rcases h.outside [] c others hcs with hspace | hcovered
    · rw [hc] at hspace
      cases hspace
    · exact hcovered
  -- The first character is in a token, which can only start there and be `t`.
  have hl_eq : l = ⟨t, start⟩ := by
    obtain ⟨before, tail, after, hcut, hposition, hl_leads⟩ := h.written l hl
    obtain rfl := List.eq_nil_of_length_eq_zero (show before.length = 0 by omega)
    obtain rfl : cs = tail := hcut
    obtain ⟨htoken, -⟩ := hl_leads.unique hleads
    obtain ⟨token, position⟩ := l
    have hposition : position = start := hposition
    have htoken : token = t := htoken
    rw [hposition, htoken]
  cases ls with
  | nil => cases hl
  | cons m ls' =>
    rcases List.mem_cons.1 hl with hm | hl'
    · exact ⟨ls', by rw [← hm, hl_eq]⟩
    · have hlt := ((List.pairwise_cons.1 h.ordered).1 l hl').1
      have hge := h.le_position (List.mem_cons_self (a := m))
      omega

/-- A decomposition is the token at the start and a decomposition of what follows it. -/
theorem decomposes_leads {t : Token} {rest : List Char} (hleads : Leads t rest cs) :
    Decomposes start cs ls ↔
      ∃ ls', Decomposes (start + t.text.length) rest ls' ∧ ⟨t, start⟩ :: ls' = ls := by
  have hcs := hleads.eq_append
  have hlength : t.text.toList.length = t.text.length := String.length_toList
  constructor
  · intro h
    obtain ⟨ls', rfl⟩ := h.eq_cons hleads
    obtain ⟨hfirst, hordered⟩ := List.pairwise_cons.1 h.ordered
    refine ⟨ls', ⟨hordered, fun l hl => ?_, fun before c after heq => ?_⟩, rfl⟩
    · obtain ⟨before, tail, after, hcut, hposition, hl_leads⟩ :=
        h.written l (List.mem_cons_of_mem _ hl)
      have hstop : start + t.text.length ≤ l.position := (hfirst l hl).2
      obtain ⟨gap, rfl, hrest⟩ := exists_append_of_append_eq (hcs.symm.trans hcut) (by omega)
      refine ⟨gap, tail, after, hrest, ?_, hl_leads⟩
      rw [hposition, List.length_append, hlength, Nat.add_assoc]
    · have hwhole : cs = (t.text.toList ++ before) ++ c :: after := by
        rw [hcs, heq, List.append_assoc]
      have hcovered := h.outside _ _ _ hwhole
      rw [List.length_append, hlength, ← Nat.add_assoc] at hcovered
      refine hcovered.imp_right fun ⟨l, hl, hle, hlt⟩ => ?_
      rcases List.mem_cons.1 hl with rfl | hl
      · have hlt : start + t.text.length + before.length < start + t.text.length := hlt
        omega
      · exact ⟨l, hl, hle, hlt⟩
  · rintro ⟨ls', h, rfl⟩
    have hpos := hleads.wellFormed.length_pos
    refine ⟨List.pairwise_cons.2 ⟨fun l hl => ?_, h.ordered⟩, fun l hl => ?_, ?_⟩
    · have hge := h.le_position hl
      exact ⟨by show start < l.position; omega, hge⟩
    · rcases List.mem_cons.1 hl with rfl | hl
      · exact ⟨[], cs, rest, rfl, rfl, hleads⟩
      · obtain ⟨before, tail, after, hcut, hposition, hl_leads⟩ := h.written l hl
        refine ⟨t.text.toList ++ before, tail, after, ?_, ?_, hl_leads⟩
        · rw [hcs, hcut, List.append_assoc]
        · rw [hposition, List.length_append, hlength, Nat.add_assoc]
    · intro before c after heq
      by_cases hin : before.length < t.text.length
      · refine .inr ⟨⟨t, start⟩, List.mem_cons_self, ?_, ?_⟩
        · show start ≤ start + before.length
          omega
        · show start + before.length < start + t.text.length
          omega
      · obtain ⟨gap, rfl, hrest⟩ := exists_append_of_append_eq (hcs.symm.trans heq) (by omega)
        have hcovered := h.outside _ _ _ hrest
        rw [List.length_append, hlength, ← Nat.add_assoc]
        exact hcovered.imp_right fun ⟨l, hl, hwithin⟩ => ⟨l, List.mem_cons_of_mem _ hl, hwithin⟩

/-- Characters that start neither with white space nor with a token have no decomposition. -/
theorem not_decomposes {c : Char} (hc : isSpace c = false) (hfront : front? (c :: cs) = none) :
    ¬ Decomposes start (c :: cs) ls := by
  intro h
  rcases h.outside [] c cs rfl with hspace | ⟨l, hl, hle, -⟩
  · rw [hc] at hspace
    cases hspace
  · obtain ⟨before, tail, after, hcut, hposition, hleads⟩ := h.written l hl
    have hle : l.position ≤ start := hle
    obtain rfl := List.eq_nil_of_length_eq_zero (show before.length = 0 by omega)
    obtain rfl : c :: cs = tail := hcut
    rw [hleads.front?_eq] at hfront
    cases hfront

end Decomposes

/-! ## The decomposition that is found -/

/-- A token is found at the start, and the rest is known. -/
theorem Leads.map_cons_eq_ok_iff {t : Token} {rest cs : List Char} (h : Leads t rest cs)
    {start next : Nat} (hnext : next = start + t.text.length)
    {found : Except SyntaxError (List Lexeme)}
    (hfound : ∀ ls', found = .ok ls' ↔ Decomposes next rest ls') {ls : List Lexeme} :
    found.map (⟨t, start⟩ :: ·) = .ok ls ↔ Decomposes start cs ls := by
  subst hnext
  rw [map_eq_ok_iff, decomposes_leads h]
  simp only [hfound]

theorem error_eq_ok_iff_decomposes {start : Nat} {c : Char} {cs : List Char}
    (hc : isSpace c = false) (hfront : front? (c :: cs) = none) {err : SyntaxError}
    {ls : List Lexeme} : Except.error err = .ok ls ↔ Decomposes start (c :: cs) ls := by
  constructor
  · intro h
    cases h
  · intro h
    exact absurd h (not_decomposes hc hfront)

/-- The tokens that are found are the decomposition. -/
theorem lexFrom_eq_ok_iff {start : Nat} {cs : List Char} {ls : List Lexeme} :
    lexFrom start cs = .ok ls ↔ Decomposes start cs ls := by
  fun_induction lexFrom start cs generalizing ls with
  | case1 start =>
    rw [decomposes_nil, Except.ok.injEq]
    exact eq_comm
  | case2 start c rest hc ih => rw [ih, decomposes_space hc]
  | case3 start c rest hc s hs ih =>
    exact (leads_symbol hs rest).map_cons_eq_ok_iff (by simp [Token.text]) @ih
  | case4 start c rest hc hnone hname name =>
    rename_i ih
    exact (leads_name hname rest).map_cons_eq_ok_iff
      (by rw [Token.text, String.length_ofList]) @ih
  | case5 start c rest hc hnone hname hchar literal hliteral =>
    rename_i ih
    exact (leads_literal hchar hliteral).map_cons_eq_ok_iff
      (by rw [Token.text, String.length_ofList]) @ih
  | case6 start c rest hc hnone hname hchar literal =>
    rename_i hliteral
    have hmalformed : isLiteral (c :: rest.takeWhile isLiteralChar) = false :=
      Bool.eq_false_iff.2 hliteral
    have hfront : front? (c :: rest) = none := by
      simp [front?, hnone, hname, hchar, hmalformed]
    exact error_eq_ok_iff_decomposes (Bool.eq_false_iff.2 hc) hfront
  | case7 start c rest hc hnone hname hchar =>
    have hfront : front? (c :: rest) = none := by
      simp [front?, hnone, hname, hchar]
    exact error_eq_ok_iff_decomposes (Bool.eq_false_iff.2 hc) hfront

/-- The tokens that are found are tokens that a text can hold. -/
theorem wellFormed_of_lex {s : String} {ls : List Lexeme} (h : lex s = .ok ls) :
    ∀ t ∈ tokensOf ls, t.WellFormed := by
  intro t ht
  obtain ⟨l, hl, rfl⟩ := List.mem_map.1 ht
  obtain ⟨_, _, _, -, -, hleads⟩ := (lexFrom_eq_ok_iff.1 h).written l hl
  exact hleads.wellFormed

/-- Where tokens are found, they are the one decomposition of the text; where there is an error, the
text has none. -/
theorem lex_decomposes (s : String) :
    match lex s with
    | .ok ls => ∀ ls', Decomposes 0 s.toList ls' ↔ ls' = ls
    | .error _ => ∀ ls', ¬ Decomposes 0 s.toList ls' := by
  have hiff : ∀ ls', lex s = .ok ls' ↔ Decomposes 0 s.toList ls' := fun ls' => lexFrom_eq_ok_iff
  cases hlex : lex s with
  | ok ls =>
    intro ls'
    rw [← hiff ls', hlex, Except.ok.injEq]
    exact eq_comm
  | error err =>
    intro ls' h
    have hls' := (hiff ls').2 h
    rw [hlex] at hls'
    cases hls'

/-- A name may follow a literal at once, and a literal may not follow a literal. -/
example : (lex "1.2.3").toOption = none ∧ (lex " 12ab*.5").toOption =
    some [⟨.number "12", 1⟩, ⟨.ident "ab", 3⟩, ⟨.symbol .times, 5⟩, ⟨.number ".5", 6⟩] := by
  decide +kernel

end Scorecard.Expr
