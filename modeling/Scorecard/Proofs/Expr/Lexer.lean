import Mathlib.Data.List.Chain
import Scorecard.Proofs.Expr.Grammar
import Scorecard.Proofs.Sequence
import Scorecard.Proofs.Text.Space

/-!
# Lexing tokens with white space between them

A token that is there in full at the start of a text is the first one that is read. So a list of
tokens may be written with any white space before, between and after them, and with none where one
of two neighbours is an operator or a parenthesis: `lex` reads it back. A text that is put together
at an operator or a parenthesis has the tokens of its parts.
-/

namespace Scorecard.Expr

open Scorecard.Text (isNameChar isNameStart isSpace)

/-! ## Classes of characters -/

theorem Symbol.char_toNat (s : Symbol) : 40 ≤ s.char.toNat ∧ s.char.toNat ≤ 47 ∧
    s.char.toNat ≠ 46 := by
  cases s <;> decide

theorem toNat_of_isAlpha {c : Char} (h : c.isAlpha = true) :
    (65 ≤ c.toNat ∧ c.toNat ≤ 90) ∨ (97 ≤ c.toNat ∧ c.toNat ≤ 122) := by
  have h' : (decide ('A'.val ≤ c.val ∧ c.val ≤ 'Z'.val) ||
      (decide ('a'.val ≤ c.val) && decide (c.val ≤ 'z'.val))) = true := h
  rw [Bool.or_eq_true, Bool.and_eq_true, decide_eq_true_iff, decide_eq_true_iff,
    decide_eq_true_iff] at h'
  exact h'

theorem toNat_of_isNameChar {c : Char} (h : isNameChar c = true) :
    (48 ≤ c.toNat ∧ c.toNat ≤ 57) ∨ (65 ≤ c.toNat ∧ c.toNat ≤ 90) ∨ c.toNat = 95 ∨
      (97 ≤ c.toNat ∧ c.toNat ≤ 122) := by
  simp only [isNameChar, Char.isAlphanum, Char.isDigit, Bool.or_eq_true, Bool.and_eq_true,
    decide_eq_true_eq, UInt32.le_iff_toNat_le] at h
  rcases h with (h | h) | rfl
  · exact (toNat_of_isAlpha h).elim (fun h => .inr (.inl h)) fun h => .inr (.inr (.inr h))
  · exact .inl h
  · decide

theorem isNameChar_of_isNameStart {c : Char} (h : isNameStart c = true) : isNameChar c = true := by
  simp only [isNameStart, isNameChar, Char.isAlphanum, Bool.or_eq_true, decide_eq_true_eq] at *
  rcases h with h | h
  · exact .inl (.inl h)
  · exact .inr h

theorem toNat_of_isNameStart {c : Char} (h : isNameStart c = true) : 65 ≤ c.toNat := by
  simp only [isNameStart, Bool.or_eq_true, decide_eq_true_eq] at h
  rcases h with h | rfl
  · have := toNat_of_isAlpha h
    omega
  · decide

theorem toNat_of_isLiteralChar {c : Char} (h : isLiteralChar c = true) :
    (48 ≤ c.toNat ∧ c.toNat ≤ 57) ∨ c.toNat = 46 := by
  simp only [isLiteralChar, Char.isDigit, Bool.or_eq_true, Bool.and_eq_true, decide_eq_true_eq,
    UInt32.le_iff_toNat_le] at h
  rcases h with h | rfl
  · exact .inl h
  · exact .inr rfl

theorem isSpace_eq_false {c : Char} (h : 33 ≤ c.toNat) (h' : c.toNat ≤ 132) :
    isSpace c = false := by
  simp only [isSpace, Bool.or_eq_false_iff, Bool.and_eq_false_iff, decide_eq_false_iff_not,
    beq_eq_false_iff_ne]
  omega

theorem isSpace_of_isNameChar {c : Char} (h : isNameChar c = true) : isSpace c = false := by
  have := toNat_of_isNameChar h
  exact isSpace_eq_false (by omega) (by omega)

theorem isSpace_of_isLiteralChar {c : Char} (h : isLiteralChar c = true) : isSpace c = false := by
  have := toNat_of_isLiteralChar h
  exact isSpace_eq_false (by omega) (by omega)

theorem Symbol.isSpace_char (s : Symbol) : isSpace s.char = false := by
  have := s.char_toNat
  exact isSpace_eq_false (by omega) (by omega)

theorem Symbol.isNameChar_char (s : Symbol) : isNameChar s.char = false := by
  refine Bool.eq_false_iff.2 fun h => ?_
  have := toNat_of_isNameChar h
  have := s.char_toNat
  omega

theorem Symbol.isLiteralChar_char (s : Symbol) : isLiteralChar s.char = false := by
  refine Bool.eq_false_iff.2 fun h => ?_
  have := toNat_of_isLiteralChar h
  have := s.char_toNat
  omega

@[simp]
theorem Symbol.ofChar?_char (s : Symbol) : ofChar? s.char = some s := by
  cases s <;> rfl

theorem Symbol.ofChar?_eq_none {c : Char} (h : ∀ s : Symbol, s.char ≠ c) : ofChar? c = none := by
  rw [ofChar?, List.find?_eq_none]
  intro s _
  simpa using h s

theorem Symbol.ofChar?_of_isNameChar {c : Char} (h : isNameChar c = true) : ofChar? c = none := by
  refine ofChar?_eq_none ?_
  rintro s rfl
  rw [s.isNameChar_char] at h
  cases h

theorem Symbol.ofChar?_of_isLiteralChar {c : Char} (h : isLiteralChar c = true) :
    ofChar? c = none := by
  refine ofChar?_eq_none ?_
  rintro s rfl
  rw [s.isLiteralChar_char] at h
  cases h

theorem isNameStart_of_isLiteralChar {c : Char} (h : isLiteralChar c = true) :
    isNameStart c = false := by
  refine Bool.eq_false_iff.2 fun hn => ?_
  have := toNat_of_isLiteralChar h
  have := toNat_of_isNameStart hn
  omega

/-! ## One token -/

/-- The characters `rest` do not go on with a character of a class. -/
def Ends (p : Char → Bool) (rest : List Char) : Prop :=
  ∀ c ∈ rest.head?, p c = false

theorem takeWhile_append_of_ends {p : Char → Bool} {cs rest : List Char}
    (hcs : ∀ c ∈ cs, p c = true) (hrest : Ends p rest) : (cs ++ rest).takeWhile p = cs := by
  rw [List.takeWhile_append_of_pos hcs]
  cases rest with
  | nil => simp
  | cons c rest => simp [hrest c (by simp)]

theorem dropWhile_append_of_ends {p : Char → Bool} {cs rest : List Char}
    (hcs : ∀ c ∈ cs, p c = true) (hrest : Ends p rest) : (cs ++ rest).dropWhile p = rest := by
  rw [List.dropWhile_append_of_pos hcs]
  cases rest with
  | nil => simp
  | cons c rest => simp [hrest c (by simp)]

theorem ends_dropWhile_append {p : Char → Bool} (cs : List Char) {rest : List Char}
    (h : Ends p rest) : Ends p (cs.dropWhile p ++ rest) := by
  cases hdrop : cs.dropWhile p with
  | nil => exact h
  | cons c others =>
    intro d hd
    have hhead := List.head?_dropWhile_not p cs
    rw [hdrop] at hhead
    obtain rfl : c = d := by simpa using hd
    simpa using hhead

theorem takeWhile_append {p : Char → Bool} (cs : List Char) {rest : List Char} (h : Ends p rest) :
    (cs ++ rest).takeWhile p = cs.takeWhile p := by
  conv => lhs; rw [← List.takeWhile_append_dropWhile (p := p) (l := cs), List.append_assoc]
  exact takeWhile_append_of_ends (fun c hc => List.mem_takeWhile_imp hc)
    (ends_dropWhile_append cs h)

theorem dropWhile_append {p : Char → Bool} (cs : List Char) {rest : List Char} (h : Ends p rest) :
    (cs ++ rest).dropWhile p = cs.dropWhile p ++ rest := by
  conv => lhs; rw [← List.takeWhile_append_dropWhile (p := p) (l := cs), List.append_assoc]
  exact dropWhile_append_of_ends (fun c hc => List.mem_takeWhile_imp hc)
    (ends_dropWhile_append cs h)

/-! ## The token at the start -/

/-- The characters of an identifier: a letter or an underscore, then letters, digits and
underscores, all of ASCII. -/
def isName : List Char → Bool
  | [] => false
  | c :: cs => isNameStart c && cs.all isNameChar

/-- The characters of a decimal literal: ASCII digits, one at least, and one point at most. -/
def isNumeral (cs : List Char) : Bool :=
  cs.all isLiteralChar && isLiteral cs

/-- A token that a text can hold: an identifier is a name and a number is a decimal literal. -/
def Token.WellFormed : Token → Prop
  | symbol _ => True
  | ident name => isName name.toList = true
  | number literal => isNumeral literal.toList = true

/-- A token may end before the characters `after`: a name is not followed by a further character of
a name, and a literal not by one of a literal. -/
def Token.StopsAt (after : List Char) : Token → Prop
  | symbol _ => True
  | ident _ => Ends isNameChar after
  | number _ => Ends isLiteralChar after

/-- `Leads t after cs`: the characters `cs` are the token `t` in full and then `after`. -/
structure Leads (t : Token) (after cs : List Char) : Prop where
  /-- The token is written at the start. -/
  eq_append : cs = t.text.toList ++ after
  /-- It is one that a text can hold. -/
  wellFormed : t.WellFormed
  /-- It does not go on in what follows. -/
  stopsAt : t.StopsAt after

theorem Token.WellFormed.exists_cons {t : Token} (ht : t.WellFormed) :
    ∃ c cs, t.text.toList = c :: cs ∧ isSpace c = false := by
  cases t with
  | symbol s => exact ⟨s.char, [], by simp [text], s.isSpace_char⟩
  | ident name =>
    simp only [WellFormed] at ht
    cases hname : name.toList with
    | nil => simp [hname, isName] at ht
    | cons c cs =>
      simp only [hname, isName, Bool.and_eq_true] at ht
      exact ⟨c, cs, hname, isSpace_of_isNameChar (isNameChar_of_isNameStart ht.1)⟩
  | number literal =>
    simp only [WellFormed, isNumeral, Bool.and_eq_true, List.all_eq_true] at ht
    cases hliteral : literal.toList with
    | nil => simp [hliteral, isLiteral] at ht
    | cons c cs => exact ⟨c, cs, hliteral, isSpace_of_isLiteralChar (ht.1 c (by simp [hliteral]))⟩

theorem Token.WellFormed.length_pos {t : Token} (ht : t.WellFormed) : 0 < t.text.length := by
  obtain ⟨c, cs, heq, -⟩ := ht.exists_cons
  rw [← String.length_toList, heq]
  exact Nat.succ_pos _

theorem Leads.exists_cons {t : Token} {after cs : List Char} (h : Leads t after cs) :
    ∃ c others, cs = c :: others ∧ isSpace c = false := by
  obtain ⟨c, others, heq, hc⟩ := h.wellFormed.exists_cons
  exact ⟨c, others ++ after, by rw [h.eq_append, heq, List.cons_append], hc⟩

theorem leads_symbol {c : Char} {s : Symbol} (h : Symbol.ofChar? c = some s) (cs : List Char) :
    Leads (.symbol s) cs (c :: cs) := by
  have hc : s.char = c := by simpa using List.find?_some h
  exact ⟨by simp [Token.text, hc], trivial, trivial⟩

theorem ends_dropWhile (p : Char → Bool) (cs : List Char) : Ends p (cs.dropWhile p) := by
  have hnil : Ends p [] := fun _ hc => by cases hc
  simpa using ends_dropWhile_append cs hnil

theorem leads_name {c : Char} (h : isNameStart c = true) (cs : List Char) :
    Leads (.ident (String.ofList (c :: cs.takeWhile isNameChar))) (cs.dropWhile isNameChar)
      (c :: cs) where
  eq_append := by simp [Token.text]
  wellFormed := by
    simp only [Token.WellFormed, String.toList_ofList, isName, h, Bool.true_and, List.all_eq_true]
    exact fun d hd => List.mem_takeWhile_imp hd
  stopsAt := ends_dropWhile isNameChar cs

theorem leads_literal {c : Char} {cs : List Char} (hc : isLiteralChar c = true)
    (h : isLiteral (c :: cs.takeWhile isLiteralChar) = true) :
    Leads (.number (String.ofList (c :: cs.takeWhile isLiteralChar))) (cs.dropWhile isLiteralChar)
      (c :: cs) where
  eq_append := by simp [Token.text]
  wellFormed := by
    simp only [Token.WellFormed, String.toList_ofList, isNumeral, h, Bool.and_true, List.all_cons,
      hc, Bool.true_and, List.all_eq_true]
    exact fun d hd => List.mem_takeWhile_imp hd
  stopsAt := ends_dropWhile isLiteralChar cs

/-- The token at the start of some characters, and the characters after it. -/
def front? : List Char → Option (Token × List Char)
  | [] => none
  | c :: cs =>
    match Symbol.ofChar? c with
    | some s => some (.symbol s, cs)
    | none =>
      if isNameStart c then
        some (.ident (String.ofList (c :: cs.takeWhile isNameChar)), cs.dropWhile isNameChar)
      else if isLiteralChar c && isLiteral (c :: cs.takeWhile isLiteralChar) then
        some (.number (String.ofList (c :: cs.takeWhile isLiteralChar)),
          cs.dropWhile isLiteralChar)
      else none

theorem Leads.front?_eq {t : Token} {after cs : List Char} (h : Leads t after cs) :
    front? cs = some (t, after) := by
  obtain ⟨rfl, hwf, hstops⟩ := h
  cases t with
  | symbol s => simp [Token.text, front?]
  | ident name =>
    simp only [Token.WellFormed] at hwf
    simp only [Token.text]
    cases hname : name.toList with
    | nil => simp [hname, isName] at hwf
    | cons c cs =>
      simp only [hname, isName, Bool.and_eq_true, List.all_eq_true] at hwf
      have hc := Symbol.ofChar?_of_isNameChar (isNameChar_of_isNameStart hwf.1)
      simp only [List.cons_append, front?, hc, hwf.1, if_true,
        takeWhile_append_of_ends hwf.2 hstops, dropWhile_append_of_ends hwf.2 hstops]
      rw [← hname, String.ofList_toList]
  | number literal =>
    simp only [Token.WellFormed, isNumeral, Bool.and_eq_true, List.all_eq_true] at hwf
    obtain ⟨hall, hliteral⟩ := hwf
    simp only [Token.text]
    cases hcs : literal.toList with
    | nil => simp [hcs, isLiteral] at hliteral
    | cons c cs =>
      rw [hcs] at hall hliteral
      obtain ⟨hc, hcs'⟩ := List.forall_mem_cons.1 hall
      have hnone := Symbol.ofChar?_of_isLiteralChar hc
      simp only [List.cons_append, front?, hnone, isNameStart_of_isLiteralChar hc,
        Bool.false_eq_true, if_false, takeWhile_append_of_ends hcs' hstops,
        dropWhile_append_of_ends hcs' hstops, hc, hliteral, Bool.and_self, if_true]
      rw [← hcs, String.ofList_toList]

theorem lexFrom_of_front? {c : Char} {cs after : List Char} {t : Token} (hc : isSpace c = false)
    (h : front? (c :: cs) = some (t, after)) (position : Nat) :
    lexFrom position (c :: cs) =
      (lexFrom (position + t.text.length) after).map (⟨t, position⟩ :: ·) := by
  rw [lexFrom.eq_def]
  simp only [front?] at h
  simp only [hc, Bool.false_eq_true, if_false]
  cases hs : Symbol.ofChar? c with
  | some s =>
    simp only [hs] at h
    obtain ⟨rfl, rfl⟩ := Prod.mk.inj (Option.some.inj h)
    simp only [Token.text, String.length_ofList, List.length_singleton]
  | none =>
    simp only [hs] at h ⊢
    split at h
    · rename_i hname
      obtain ⟨rfl, rfl⟩ := Prod.mk.inj (Option.some.inj h)
      rw [if_pos hname]
      simp only [Token.text, String.length_ofList]
    · rename_i hname
      split at h
      · rename_i hliteral
        rw [Bool.and_eq_true] at hliteral
        obtain ⟨rfl, rfl⟩ := Prod.mk.inj (Option.some.inj h)
        rw [if_neg hname, if_pos hliteral.1, if_pos hliteral.2]
        simp only [Token.text, String.length_ofList]
      · cases h

/-- A token that is there in full is read. -/
theorem Leads.lexFrom_eq {t : Token} {after cs : List Char} (h : Leads t after cs)
    (position : Nat) : lexFrom position cs =
      (lexFrom (position + t.text.length) after).map (⟨t, position⟩ :: ·) := by
  obtain ⟨c, others, rfl, hc⟩ := h.exists_cons
  exact lexFrom_of_front? hc h.front?_eq position

theorem lexFrom_symbol (s : Symbol) (position : Nat) (cs : List Char) :
    lexFrom position (s.char :: cs) =
      (lexFrom (position + 1) cs).map (⟨.symbol s, position⟩ :: ·) := by
  have hleads := leads_symbol s.ofChar?_char cs
  simpa only [Token.text, String.length_ofList, List.length_singleton] using
    hleads.lexFrom_eq position

/-! ## Gaps and characters -/

/-- White space is passed over. -/
theorem lexFrom_gap {gap : List Char} (h : ∀ c ∈ gap, isSpace c = true) (position : Nat)
    (cs : List Char) : lexFrom position (gap ++ cs) = lexFrom (position + gap.length) cs := by
  induction gap generalizing position with
  | nil => rfl
  | cons c gap ih =>
    obtain ⟨hc, hgap⟩ := List.forall_mem_cons.1 h
    rw [List.cons_append, lexFrom.eq_def]
    dsimp only
    rw [if_pos hc, ih hgap, List.length_cons, Nat.add_right_comm, Nat.add_assoc]

/-- The characters of tokens, and the white space between them. -/
def isTextChar (c : Char) : Bool :=
  isSpace c || (Symbol.ofChar? c).isSome || isNameChar c || isLiteralChar c

/-- A text with a character that stands in no token is not lexed. -/
theorem isTextChar_of_lexFrom {position : Nat} {cs : List Char} {ls : List Lexeme}
    (h : lexFrom position cs = .ok ls) : ∀ c ∈ cs, isTextChar c = true := by
  have hspan : ∀ {p : Char → Bool} {ds : List Char}, (∀ d, p d = true → isTextChar d = true) →
      (∀ d ∈ ds.dropWhile p, isTextChar d = true) → ∀ d ∈ ds, isTextChar d = true := by
    intro p ds hp hdrop
    rw [← List.takeWhile_append_dropWhile (p := p) (l := ds)]
    exact List.forall_mem_append.2 ⟨fun d hd => hp d (List.mem_takeWhile_imp hd), hdrop⟩
  have hname : ∀ d, isNameChar d = true → isTextChar d = true := fun d hd => by
    simp [isTextChar, hd]
  have hliteral : ∀ d, isLiteralChar d = true → isTextChar d = true := fun d hd => by
    simp [isTextChar, hd]
  fun_induction lexFrom position cs generalizing ls with
  | case1 => simp
  | case2 position c rest hc ih =>
    exact List.forall_mem_cons.2 ⟨by simp [isTextChar, hc], ih h⟩
  | case3 position c rest hc s hs ih =>
    obtain ⟨ls', hls', -⟩ := map_eq_ok_iff.1 h
    exact List.forall_mem_cons.2 ⟨by simp [isTextChar, hs], ih hls'⟩
  | case4 position c rest hc hnone hstart name =>
    rename_i ih
    obtain ⟨ls', hls', -⟩ := map_eq_ok_iff.1 h
    exact List.forall_mem_cons.2
      ⟨hname c (isNameChar_of_isNameStart hstart), hspan hname (ih hls')⟩
  | case5 position c rest hc hnone hstart hchar literal hlit =>
    rename_i ih
    obtain ⟨ls', hls', -⟩ := map_eq_ok_iff.1 h
    exact List.forall_mem_cons.2 ⟨hliteral c hchar, hspan hliteral (ih hls')⟩
  | case6 => cases h
  | case7 => cases h

/-! ## Spaced tokens -/

/-- Whether a token is an operator or a parenthesis. -/
def Token.isSymbol : Token → Bool
  | symbol _ => true
  | ident _ | number _ => false

/-- One of two neighbours is an operator or a parenthesis. -/
def Token.Apart (t u : Token) : Prop :=
  t.isSymbol = true ∨ u.isSymbol = true

/-- `Spaced ts cs`: the characters `cs` are the tokens `ts` with any white space, or none, before,
between and after them. -/
inductive Spaced : List Token → List Char → Prop where
  /-- White space after the last token. -/
  | nil (gap : List Char) (h : ∀ c ∈ gap, isSpace c = true) : Spaced [] gap
  /-- White space before a token, and the token. -/
  | cons (gap : List Char) {t : Token} {ts : List Token} {cs : List Char}
      (h : ∀ c ∈ gap, isSpace c = true) (hs : Spaced ts cs) :
      Spaced (t :: ts) (gap ++ (t.text.toList ++ cs))

/-- Where no word follows, the characters do not go on with one. -/
theorem Spaced.ends {p : Char → Bool} (hspace : ∀ {c}, p c = true → isSpace c = false)
    (hsymbol : ∀ s : Symbol, p s.char = false) {ts : List Token} {cs : List Char}
    (h : Spaced ts cs) (hts : ∀ t ∈ ts.head?, t.isSymbol = true) : Ends p cs := by
  have hgap : ∀ {gap : List Char}, (∀ c ∈ gap, isSpace c = true) →
      ∀ c ∈ gap.head?, p c = false := by
    intro gap hgap c hc
    refine Bool.eq_false_iff.2 fun hp => ?_
    have hc := hgap c (List.mem_of_mem_head? hc)
    rw [hspace hp] at hc
    cases hc
  cases h with
  | nil gap h => exact hgap h
  | @cons gap t ts cs h hs =>
    cases gap with
    | cons c gap =>
      have hc := hgap h c (by simp)
      simpa [Ends] using hc
    | nil =>
      cases t with
      | symbol s => simpa [Ends, Token.text] using hsymbol s
      | ident name => simp [Token.isSymbol] at hts
      | number literal => simp [Token.isSymbol] at hts

/-- The first token of spaced tokens is there in full, if what it could go on with does not
follow. -/
theorem Spaced.leads {t : Token} {ts : List Token} {cs : List Char} (ht : t.WellFormed)
    (hs : Spaced ts cs) (hsep : t.isSymbol = true ∨ ∀ u ∈ ts.head?, u.isSymbol = true) :
    Leads t cs (t.text.toList ++ cs) where
  eq_append := rfl
  wellFormed := ht
  stopsAt := by
    rcases hsep with hsymbol | hnext
    · cases t with
      | symbol s => trivial
      | ident name => cases hsymbol
      | number literal => cases hsymbol
    · cases t with
      | symbol s => trivial
      | ident name => exact hs.ends isSpace_of_isNameChar Symbol.isNameChar_char hnext
      | number literal => exact hs.ends isSpace_of_isLiteralChar Symbol.isLiteralChar_char hnext

/-- Spaced tokens are read back. -/
theorem Spaced.lexFrom_eq {ts : List Token} {cs : List Char} (h : Spaced ts cs)
    (hwf : ∀ t ∈ ts, t.WellFormed) (hsep : ts.IsChain Token.Apart) (position : Nat) :
    ∃ ls, lexFrom position cs = .ok ls ∧ tokensOf ls = ts := by
  induction h generalizing position with
  | nil gap h =>
    refine ⟨[], ?_, rfl⟩
    rw [← List.append_nil gap, lexFrom_gap h, lexFrom.eq_def]
  | @cons gap t ts cs h hs ih =>
    obtain ⟨ht, hts⟩ := List.forall_mem_cons.1 hwf
    have hnext : t.isSymbol = true ∨ ∀ u ∈ ts.head?, u.isSymbol = true := by
      cases hsep with
      | singleton => simp
      | cons_cons hfst _ => simpa [Token.Apart] using hfst
    obtain ⟨ls, hls, heq⟩ := ih hts hsep.tail (position + gap.length + t.text.length)
    refine ⟨⟨t, position + gap.length⟩ :: ls, ?_, by rw [← heq]; rfl⟩
    rw [lexFrom_gap h, (hs.leads ht hnext).lexFrom_eq, hls]
    rfl

/-- A text of spaced tokens has these tokens. -/
theorem Spaced.lex_eq {ts : List Token} {s : String} (h : Spaced ts s.toList)
    (hwf : ∀ t ∈ ts, t.WellFormed) (hsep : ts.IsChain Token.Apart) :
    ∃ ls, lex s = .ok ls ∧ tokensOf ls = ts :=
  h.lexFrom_eq hwf hsep 0

/-! ## Texts put together at a symbol -/

/-- The tokens of the characters `cs`, the first of which is at `position`; nothing if there is an
error. -/
def tokensAt? (position : Nat) (cs : List Char) : Option (List Token) :=
  (lexFrom position cs).toOption.map tokensOf

/-- The tokens of a text. -/
def tokens? (cs : List Char) : Option (List Token) :=
  tokensAt? 0 cs

theorem tokensAt?_nil (position : Nat) : tokensAt? position [] = some [] := by
  rw [tokensAt?, lexFrom.eq_def]
  rfl

theorem tokens_map_cons (x : Except SyntaxError (List Lexeme)) (l : Lexeme) :
    (x.map (l :: ·)).toOption.map tokensOf = (x.toOption.map tokensOf).map (l.token :: ·) := by
  cases x <;> rfl

theorem tokensAt?_cons (position : Nat) (c : Char) (cs : List Char) :
    tokensAt? position (c :: cs) =
      if isSpace c then tokensAt? (position + 1) cs
      else
        match Symbol.ofChar? c with
        | some s => (tokensAt? (position + 1) cs).map (.symbol s :: ·)
        | none =>
          if isNameStart c then
            (tokensAt? (position + (c :: cs.takeWhile isNameChar).length)
              (cs.dropWhile isNameChar)).map
                (.ident (String.ofList (c :: cs.takeWhile isNameChar)) :: ·)
          else if isLiteralChar c then
            if isLiteral (c :: cs.takeWhile isLiteralChar) then
              (tokensAt? (position + (c :: cs.takeWhile isLiteralChar).length)
                (cs.dropWhile isLiteralChar)).map
                  (.number (String.ofList (c :: cs.takeWhile isLiteralChar)) :: ·)
            else none
          else none := by
  rw [tokensAt?, lexFrom.eq_def]
  dsimp only
  split
  · rfl
  · cases Symbol.ofChar? c with
    | some s => exact tokens_map_cons _ _
    | none =>
      dsimp only
      split
      · exact tokens_map_cons _ _
      · split
        · split
          · exact tokens_map_cons _ _
          · rfl
        · rfl

section Append

variable {rest : List Char} {us : Option (List Token)}

theorem tokensAt?_append_of_rest (hname : Ends isNameChar rest) (hliteral : Ends isLiteralChar rest)
    (hrest : ∀ position, tokensAt? position rest = us) (cs : List Char) (p q : Nat) :
    tokensAt? p (cs ++ rest) = (tokensAt? q cs).bind fun ts => us.map (ts ++ ·) := by
  have hstep (x : Option (List Token)) (t : Token) :
      (x.bind fun ts => us.map (ts ++ ·)).map (t :: ·) =
        (x.map (t :: ·)).bind fun ts => us.map (ts ++ ·) := by
    cases x <;> cases us <;> rfl
  induction hlength : cs.length using Nat.strongRecOn generalizing cs p q with
  | ind n ih =>
    cases cs with
    | nil =>
      rw [List.nil_append, hrest, tokensAt?_nil]
      cases us <;> rfl
    | cons c cs =>
      have hcs : ∀ others p q, others.length ≤ cs.length →
          tokensAt? p (others ++ rest) = (tokensAt? q others).bind fun ts => us.map (ts ++ ·) :=
        fun others p q hle => ih others.length (by rw [← hlength]; exact Nat.lt_succ_of_le hle)
          others p q rfl
      have hdrop (f : Char → Bool) : (cs.dropWhile f).length ≤ cs.length :=
        (List.dropWhile_suffix f).length_le
      rw [List.cons_append, tokensAt?_cons, tokensAt?_cons, takeWhile_append cs hname,
        dropWhile_append cs hname, takeWhile_append cs hliteral, dropWhile_append cs hliteral]
      split
      · exact hcs cs _ _ (Nat.le_refl _)
      · cases Symbol.ofChar? c with
        | some s =>
          dsimp only
          rw [hcs cs _ (q + 1) (Nat.le_refl _), hstep]
        | none =>
          dsimp only
          split
          · rw [hcs _ _ _ (hdrop _), hstep]
          · split
            · split
              · rw [hcs _ _ _ (hdrop _), hstep]
              · rfl
            · rfl

end Append

/-- The tokens do not depend on the position. -/
theorem tokensAt?_eq (position : Nat) (cs : List Char) : tokensAt? position cs = tokens? cs := by
  have happend := tokensAt?_append_of_rest (fun _ hc => absurd hc (Option.not_mem_none _))
    (fun _ hc => absurd hc (Option.not_mem_none _)) tokensAt?_nil cs position 0
  simp only [List.append_nil, Option.map_some, Option.bind_fun_some] at happend
  exact happend

/-- The tokens of two texts one after the other, where the second does not go on with the last token
of the first. -/
theorem tokens?_append {rest : List Char} (hname : Ends isNameChar rest)
    (hliteral : Ends isLiteralChar rest) (cs : List Char) :
    tokens? (cs ++ rest) = (tokens? cs).bind fun ts => (tokens? rest).map (ts ++ ·) :=
  tokensAt?_append_of_rest hname hliteral (fun position => tokensAt?_eq position rest) cs 0 0

theorem tokens?_gap {gap : List Char} (h : Text.AllSpace gap) (cs : List Char) :
    tokens? (gap ++ cs) = tokens? cs := by
  rw [← tokensAt?_eq gap.length cs, tokens?, tokensAt?, lexFrom_gap h, Nat.zero_add, tokensAt?]

theorem tokens?_symbol (s : Symbol) (cs : List Char) :
    tokens? (s.char :: cs) = (tokens? cs).map (.symbol s :: ·) := by
  rw [← tokensAt?_eq (0 + 1) cs, tokens?, tokensAt?, lexFrom_symbol, tokens_map_cons, tokensAt?]

/-- A text that is put together at a symbol has the tokens of its parts. -/
theorem tokens?_append_symbol (cs : List Char) (s : Symbol) (rest : List Char) :
    tokens? (cs ++ s.char :: rest) =
      (tokens? cs).bind fun ts => (tokens? rest).map fun us => ts ++ .symbol s :: us := by
  have hends : ∀ {p : Char → Bool}, p s.char = false → Ends p (s.char :: rest) := by
    intro p hp c hc
    obtain rfl : s.char = c := by simpa using hc
    exact hp
  rw [tokens?_append (hends s.isNameChar_char) (hends s.isLiteralChar_char), tokens?_symbol]
  simp only [Option.map_map]
  rfl

/-- White space around a text makes no tokens. -/
theorem tokens?_trimmed (cs : List Char) : tokens? (Text.trimmed cs) = tokens? cs := by
  obtain ⟨left, right, hsplit, hleft, -, hright⟩ := Text.exists_padding cs
  have hends : ∀ {p : Char → Bool}, (∀ {c}, p c = true → isSpace c = false) → Ends p right := by
    intro p hp c hc
    refine Bool.eq_false_iff.2 fun hpc => ?_
    have hspace := hright c (List.mem_of_mem_head? hc)
    rw [hp hpc] at hspace
    cases hspace
  have hnil : tokens? right = some [] := by
    rw [← List.append_nil right, tokens?_gap hright]
    exact tokensAt?_nil 0
  conv => rhs; rw [hsplit, List.append_assoc, tokens?_gap hleft, tokens?_append
    (hends isSpace_of_isNameChar) (hends isSpace_of_isLiteralChar), hnil]
  simp

theorem lex_trim_eq_ok {s : String} {ls : List Lexeme} (h : lex (Text.trim s) = .ok ls) :
    tokens? s.toList = some (tokensOf ls) := by
  rw [← tokens?_trimmed, tokens?, tokensAt?]
  rw [lex, Text.trim, String.toList_ofList] at h
  rw [h]
  rfl

end Scorecard.Expr
