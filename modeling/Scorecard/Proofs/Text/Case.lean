import Scorecard.Text.Case
import Scorecard.Proofs.Text.Space
import Mathlib.Data.Nat.Bitwise

/-!
# Letter case

Lower case is stable: a text in lower case stays as it is when it is put in lower case again. It
also goes past white space, which has no case and does not decide the form of a sigma, so it makes
no difference whether a text is trimmed first or put in lower case first.

A text whose lower-case form is made of ASCII letters other than `k` and of white space spells that
form in some ASCII letter case.

All three rest on the tables. The code points that the tables move are one set, those they are moved
to another, and white space a third; the sets are compared as the bits of numbers.
-/

namespace Scorecard.Text

/-! ## Sets of code points -/

/-- The number whose bits are the members of a list. -/
def mask (codes : List Nat) : Nat :=
  codes.foldr (fun n bits => 2 ^ n ||| bits) 0

/-- The number whose bits are the members of the lists. -/
def maskAll (lists : List (List Nat)) : Nat :=
  lists.foldr (fun codes bits => mask codes ||| bits) 0

theorem testBit_mask {codes : List Nat} {n : Nat} : (mask codes).testBit n = true ↔ n ∈ codes := by
  induction codes with
  | nil => simp [mask]
  | cons m codes ih =>
    rw [mask, List.foldr_cons, Nat.testBit_or, Bool.or_eq_true, ← mask, ih, Nat.testBit_two_pow,
      decide_eq_true_iff, List.mem_cons, eq_comm]

theorem testBit_maskAll {lists : List (List Nat)} {n : Nat} :
    (maskAll lists).testBit n = true ↔ ∃ codes ∈ lists, n ∈ codes := by
  induction lists with
  | nil => simp [maskAll]
  | cons codes lists ih =>
    rw [maskAll, List.foldr_cons, Nat.testBit_or, Bool.or_eq_true, ← maskAll, ih, testBit_mask,
      List.exists_mem_cons_iff]

/-- Lists whose numbers have no bit in common have no member in common. -/
theorem notMem_of_mask {lists lists' : List (List Nat)} (h : maskAll lists &&& maskAll lists' = 0)
    {codes codes' : List Nat} (hcodes : codes ∈ lists) (hcodes' : codes' ∈ lists') {n : Nat}
    (hn : n ∈ codes) : n ∉ codes' := by
  intro hn'
  have hbit := testBit_maskAll.2 ⟨codes, hcodes, hn⟩
  have hbit' := testBit_maskAll.2 ⟨codes', hcodes', hn'⟩
  have hzero := congrArg (·.testBit n) h
  simp [Nat.testBit_and, hbit, hbit'] at hzero

/-! ## The tables -/

/-- The code points that a run moves. -/
def CaseRun.sources (r : CaseRun) : List Nat :=
  List.range' r.first ((r.last - r.first) / r.stride + 1) r.stride

/-- The code points that a run moves something to. -/
def CaseRun.targets (r : CaseRun) : List Nat :=
  r.sources.map fun n : Nat => ((n : Int) + r.offset).toNat

theorem CaseRun.mem_sources {r : CaseRun} {n m : Nat} (h : r.image? n = some m) :
    n ∈ r.sources ∧ m ∈ r.targets := by
  unfold image? at h
  split at h
  · rename_i hn
    simp only [Bool.and_eq_true, decide_eq_true_eq, beq_iff_eq] at hn
    obtain ⟨⟨hfirst, hlast⟩, hstride⟩ := hn
    have hmem : n ∈ r.sources := by
      refine List.mem_range'.2 ⟨(n - r.first) / r.stride, ?_, ?_⟩
      · exact Nat.lt_succ_of_le (Nat.div_le_div_right (by omega))
      · rw [Nat.mul_div_cancel' (Nat.dvd_of_mod_eq_zero hstride)]
        omega
    exact ⟨hmem, List.mem_map.2 ⟨n, hmem, Option.some.inj h⟩⟩
  · simp at h

/-- A code point stays, or some run moves it. -/
theorem CaseRun.applyAll_cases (runs : List CaseRun) (n : Nat) :
    applyAll runs n = n ∨ ∃ r ∈ runs, n ∈ r.sources ∧ applyAll runs n ∈ r.targets := by
  unfold applyAll
  cases h : runs.findSome? (·.image? n) with
  | none => exact .inl rfl
  | some m =>
    obtain ⟨r, hr, himage⟩ := List.exists_of_findSome?_eq_some h
    exact .inr ⟨r, hr, mem_sources himage⟩

/-- The lower-case form of a code point. -/
def lowerCode (n : Nat) : Nat :=
  CaseRun.applyAll lowerRuns n

theorem lowerCode_cases (n : Nat) :
    lowerCode n = n ∨ ∃ r ∈ lowerRuns, n ∈ r.sources ∧ lowerCode n ∈ r.targets :=
  CaseRun.applyAll_cases lowerRuns n

theorem lowerCode_of_notMem {n : Nat} (h : ∀ r ∈ lowerRuns, n ∉ r.sources) : lowerCode n = n := by
  rcases lowerCode_cases n with h' | ⟨r, hr, hn, -⟩
  · exact h'
  · exact absurd hn (h r hr)

/-- The code points of white space. -/
def spaceCodes : List Nat :=
  [0x85, 0xA0, 0x1680, 0x2028, 0x2029, 0x202F, 0x205F, 0x3000] ++ List.range' 9 5 ++
    List.range' 28 5 ++ List.range' 0x2000 11

/-- The code points of ASCII that are no capital letters. -/
def otherAscii : List Nat :=
  List.range' 0 65 ++ List.range' 91 37

/-- Nothing is moved twice, and neither white space nor ASCII is moved, capital letters apart. -/
theorem mask_unmoved_sources :
    maskAll (spaceCodes :: otherAscii :: lowerRuns.map CaseRun.targets) &&&
      maskAll (lowerRuns.map CaseRun.sources) = 0 := by
  decide +kernel

theorem lowerCode_of_unmoved {n : Nat} {codes : List Nat}
    (hcodes : codes ∈ spaceCodes :: otherAscii :: lowerRuns.map CaseRun.targets) (h : n ∈ codes) :
    lowerCode n = n :=
  lowerCode_of_notMem fun _ hr =>
    notMem_of_mask mask_unmoved_sources hcodes (List.mem_map_of_mem hr) h

@[simp]
theorem lowerCode_lowerCode (n : Nat) : lowerCode (lowerCode n) = lowerCode n := by
  rcases lowerCode_cases n with h | ⟨r, hr, -, htarget⟩
  · rw [h, h]
  · have hcodes : r.targets ∈ lowerRuns.map CaseRun.targets := List.mem_map_of_mem hr
    exact lowerCode_of_unmoved (List.mem_cons_of_mem _ (List.mem_cons_of_mem _ hcodes)) htarget

theorem bounds_targets :
    ((lowerRuns.map CaseRun.targets).all fun codes => codes.all fun n =>
      Nat.blt n 0xD800 || (Nat.blt 0xDFFF n && Nat.blt n 0x110000)) = true := by
  decide

theorem isValidChar_lowerCode {n : Nat} (h : n.isValidChar) : (lowerCode n).isValidChar := by
  rcases lowerCode_cases n with h' | ⟨r, hr, -, htarget⟩
  · rwa [h']
  · have hall := List.all_eq_true.1 bounds_targets _ (List.mem_map_of_mem hr)
    have hbounds := List.all_eq_true.1 hall _ htarget
    simpa [Nat.isValidChar, Nat.blt_eq] using hbounds

/-! ## White space -/

theorem isSpace_iff {c : Char} : isSpace c = true ↔ c.toNat ∈ spaceCodes := by
  simp only [isSpace, spaceCodes, Bool.or_eq_true, Bool.and_eq_true, decide_eq_true_eq, beq_iff_eq,
    List.mem_append, List.mem_cons, List.not_mem_nil, List.mem_range'_1, or_false]
  omega

/-- Nothing is moved to white space or to a dotted capital letter. -/
theorem mask_targets_others :
    maskAll (lowerRuns.map CaseRun.targets) &&& maskAll [spaceCodes, ['İ'.toNat]] = 0 := by
  decide +kernel

/-- White space has no case. -/
theorem lowerCode_of_space {n : Nat} (h : n ∈ spaceCodes) : lowerCode n = n :=
  lowerCode_of_unmoved List.mem_cons_self h

/-- Nothing but white space becomes white space. -/
theorem space_of_lowerCode {n : Nat} (h : lowerCode n ∈ spaceCodes) : n ∈ spaceCodes := by
  rcases lowerCode_cases n with h' | ⟨r, hr, -, htarget⟩
  · rwa [h'] at h
  · exact absurd h (notMem_of_mask mask_targets_others (List.mem_map_of_mem hr)
      List.mem_cons_self htarget)

/-! ## One character -/

/-- A character that lower case leaves as it is. -/
structure Stable (c : Char) : Prop where
  /-- The character is not the letter whose lower case depends on its neighbours. -/
  notSigma : c ≠ 'Σ'
  /-- The character is its own lower case. -/
  lowerChar : lowerChar c = [c]

theorem toLower_eq {c : Char} (h : c.toNat < 128) :
    c.toLower = Char.ofNat (lowerCode c.toNat) := by
  have hc : c.toLower = (Char.ofNat c.toNat).toLower := by rw [Char.ofNat_toNat]
  by_cases hupper : c.toNat ∈ List.range' 65 26
  · have hall : ∀ n ∈ List.range' 65 26, (Char.ofNat n).toLower = Char.ofNat (lowerCode n) := by
      decide
    rw [hc, hall _ hupper]
  · have hother : c.toNat ∈ otherAscii := by
      simp only [otherAscii, List.mem_append, List.mem_range'_1] at hupper ⊢
      omega
    have hall : ∀ n ∈ otherAscii, (Char.ofNat n).toLower = Char.ofNat n := by decide
    rw [hc, hall _ hother,
      lowerCode_of_unmoved (List.mem_cons_of_mem _ List.mem_cons_self) hother]

/-- The table holds for ASCII as well. -/
theorem lowerChar_eq {c : Char} (h : c ≠ 'İ') :
    lowerChar c = [Char.ofNat (lowerCode c.toNat)] := by
  unfold lowerChar
  split
  · rename_i hascii
    rw [toLower_eq hascii]
  · rfl

theorem toNat_lowerCode (c : Char) :
    (Char.ofNat (lowerCode c.toNat)).toNat = lowerCode c.toNat := by
  have hvalid : (lowerCode c.toNat).isValidChar := isValidChar_lowerCode c.valid
  rw [Char.ofNat, dif_pos hvalid]
  exact UInt32.toNat_ofNatLT

theorem lowerCode_dotted {n : Nat} (h : lowerCode n = 'İ'.toNat) : n = 'İ'.toNat := by
  rcases lowerCode_cases n with h' | ⟨r, hr, -, htarget⟩
  · rw [← h', h]
  · rw [h] at htarget
    have hother := notMem_of_mask mask_targets_others (List.mem_map_of_mem hr)
      (List.mem_cons_of_mem _ List.mem_cons_self) htarget
    exact absurd List.mem_cons_self hother

/-- Lower-case forms are stable. -/
theorem stable_ofNat_lowerCode {c : Char} (h : c ≠ 'İ') :
    Stable (Char.ofNat (lowerCode c.toNat)) := by
  set d := Char.ofNat (lowerCode c.toNat) with hd
  have hcode : lowerCode d.toNat = d.toNat := by
    rw [hd, toNat_lowerCode, lowerCode_lowerCode]
  have hdotted : d ≠ 'İ' := by
    intro hdd
    refine h (Char.toNat_inj.1 (lowerCode_dotted ?_))
    rw [← toNat_lowerCode, ← hd, hdd]
  constructor
  · intro hsigma
    rw [hsigma] at hcode
    exact absurd hcode (by decide)
  · rw [lowerChar_eq hdotted, hcode, Char.ofNat_toNat]

theorem stable_of_mem_lowerChar {c d : Char} (h : d ∈ lowerChar c) : Stable d := by
  by_cases hc : c = 'İ'
  · subst hc
    have hforms : lowerChar 'İ' = ['i', '\u0307'] := rfl
    rw [hforms, List.mem_cons, List.mem_singleton] at h
    rcases h with rfl | rfl
    · exact ⟨by decide, by decide⟩
    · exact ⟨by decide, by decide⟩
  · rw [lowerChar_eq hc, List.mem_singleton] at h
    exact h ▸ stable_ofNat_lowerCode hc

theorem lowerChar_ne_nil (c : Char) : lowerChar c ≠ [] := by
  by_cases hc : c = 'İ'
  · subst hc
    exact List.cons_ne_nil _ _
  · rw [lowerChar_eq hc]
    exact List.cons_ne_nil _ _

theorem lowerChar_of_space {c : Char} (h : isSpace c = true) : lowerChar c = [c] := by
  have hc : c ≠ 'İ' := by
    rintro rfl
    exact absurd h (by decide)
  rw [lowerChar_eq hc, lowerCode_of_space (isSpace_iff.1 h), Char.ofNat_toNat]

theorem isSpace_of_mem_lowerChar {c d : Char} (h : isSpace c = false) (hd : d ∈ lowerChar c) :
    isSpace d = false := by
  by_cases hc : c = 'İ'
  · subst hc
    have hforms : lowerChar 'İ' = ['i', '\u0307'] := rfl
    rw [hforms, List.mem_cons, List.mem_singleton] at hd
    rcases hd with rfl | rfl <;> rfl
  · rw [lowerChar_eq hc, List.mem_singleton] at hd
    by_contra hspace
    rw [hd, Bool.not_eq_false, isSpace_iff, toNat_lowerCode] at hspace
    rw [isSpace_iff.2 (space_of_lowerCode hspace)] at h
    exact absurd h (by decide)

/-! ## Texts -/

/-- The form of one character between others. -/
def lowerForm (before : List Char) (c : Char) (after : List Char) : List Char :=
  if c = 'Σ' then [if casedFirst before && !casedFirst after then 'ς' else 'σ'] else lowerChar c

theorem lowerAfter_cons (before : List Char) (c : Char) (cs : List Char) :
    lowerAfter before (c :: cs) = lowerForm before c cs ++ lowerAfter (c :: before) cs := rfl

theorem lowerForm_ne_nil (before : List Char) (c : Char) (after : List Char) :
    lowerForm before c after ≠ [] := by
  unfold lowerForm
  split
  · exact List.cons_ne_nil _ _
  · exact lowerChar_ne_nil c

theorem stable_of_mem_lowerForm {before after : List Char} {c d : Char}
    (h : d ∈ lowerForm before c after) : Stable d := by
  unfold lowerForm at h
  split at h
  · rw [List.mem_singleton] at h
    split at h
    · exact h ▸ ⟨by decide, by decide⟩
    · exact h ▸ ⟨by decide, by decide⟩
  · exact stable_of_mem_lowerChar h

theorem lowerAfter_of_stable {cs : List Char} (h : ∀ c ∈ cs, Stable c) (before : List Char) :
    lowerAfter before cs = cs := by
  induction cs generalizing before with
  | nil => rfl
  | cons c cs ih =>
    have hc := h c List.mem_cons_self
    rw [lowerAfter_cons, lowerForm, if_neg hc.notSigma, hc.lowerChar,
      ih fun d hd => h d (List.mem_cons_of_mem c hd), List.singleton_append]

theorem stable_of_mem_lowerAfter {before cs : List Char} {d : Char}
    (h : d ∈ lowerAfter before cs) : Stable d := by
  induction cs generalizing before with
  | nil => exact absurd h List.not_mem_nil
  | cons c cs ih =>
    rw [lowerAfter_cons, List.mem_append] at h
    exact h.elim stable_of_mem_lowerForm ih

/-- Lower case is stable. -/
@[simp]
theorem lower_lower (s : String) : lower (lower s) = lower s := by
  rw [lower, lower, String.toList_ofList,
    lowerAfter_of_stable (fun _ h => stable_of_mem_lowerAfter h)]

/-! ## Trimming and lower case -/

theorem not_contains {spans : Spans} {n : Nat}
    (h : (spans.all fun span => Nat.blt n span.1 || Nat.blt span.2 n) = true) :
    spans.contains n = false := by
  refine List.any_eq_false.2 fun span hspan => ?_
  have hoff := List.all_eq_true.1 h span hspan
  simp only [Bool.or_eq_true, Nat.blt_eq] at hoff
  simp only [Bool.and_eq_true, decide_eq_true_eq]
  omega

theorem spans_spaceCodes :
    (spaceCodes.all fun n => (caseIgnorable ++ casedLetters).all fun span =>
      Nat.blt n span.1 || Nat.blt span.2 n) = true := by
  decide +kernel

theorem not_cased_of_space {c : Char} (h : isSpace c = true) :
    caseIgnorable.contains c.toNat = false ∧ casedLetters.contains c.toNat = false := by
  have hall := List.all_eq_true.1 spans_spaceCodes _ (isSpace_iff.1 h)
  rw [List.all_append, Bool.and_eq_true] at hall
  exact ⟨not_contains hall.1, not_contains hall.2⟩

/-- White space stops the search for a character that has case. -/
theorem casedFirst_append_space (cs : List Char) {pad : List Char} (h : AllSpace pad) :
    casedFirst (cs ++ pad) = casedFirst cs := by
  unfold casedFirst
  rw [List.dropWhile_append]
  cases hdrop : cs.dropWhile fun c => caseIgnorable.contains c.toNat with
  | cons d ds => rfl
  | nil =>
    cases pad with
    | nil => rfl
    | cons c pad =>
      obtain ⟨hignorable, hcased⟩ := not_cased_of_space (h c List.mem_cons_self)
      rw [List.isEmpty_nil, if_pos rfl, List.dropWhile_cons_of_neg (by simp [hignorable])]
      exact hcased

theorem lowerForm_padded (before : List Char) (c : Char) (after : List Char)
    {left right : List Char} (hleft : AllSpace left) (hright : AllSpace right) :
    lowerForm (before ++ left) c (after ++ right) = lowerForm before c after := by
  rw [lowerForm, lowerForm, casedFirst_append_space _ hleft, casedFirst_append_space _ hright]

/-- White space stays as it is. -/
theorem lowerAfter_space_append (before : List Char) {left : List Char} (hleft : AllSpace left)
    (cs : List Char) :
    lowerAfter before (left ++ cs) = left ++ lowerAfter (left.reverse ++ before) cs := by
  induction left generalizing before with
  | nil => rfl
  | cons c left ih =>
    have hc : isSpace c = true := hleft c List.mem_cons_self
    have hsigma : c ≠ 'Σ' := by
      rintro rfl
      exact absurd hc (by decide)
    rw [List.cons_append, lowerAfter_cons, lowerForm, if_neg hsigma, lowerChar_of_space hc,
      ih (c :: before) fun d hd => hleft d (List.mem_cons_of_mem c hd), List.reverse_cons,
      List.append_assoc, List.singleton_append, List.singleton_append, List.cons_append]

theorem lowerAfter_padded (before cs : List Char) {left right : List Char} (hleft : AllSpace left)
    (hright : AllSpace right) :
    lowerAfter (before ++ left) (cs ++ right) = lowerAfter before cs ++ right := by
  induction cs generalizing before with
  | nil =>
    have := lowerAfter_space_append (before ++ left) hright []
    rwa [List.append_nil, lowerAfter, List.append_nil] at this
  | cons c cs ih =>
    rw [List.cons_append, lowerAfter_cons, lowerAfter_cons, lowerForm_padded _ _ _ hleft hright,
      ← List.cons_append, ih, List.append_assoc]

theorem isSpace_of_mem_lowerForm {before after : List Char} {c d : Char}
    (h : isSpace c = false) (hd : d ∈ lowerForm before c after) : isSpace d = false := by
  unfold lowerForm at hd
  split at hd
  · rw [List.mem_singleton] at hd
    split at hd <;> exact hd ▸ rfl
  · exact isSpace_of_mem_lowerChar h hd

theorem lowerAfter_ne_nil (before : List Char) (c : Char) (cs : List Char) :
    lowerAfter before (c :: cs) ≠ [] := by
  rw [lowerAfter_cons]
  exact List.append_ne_nil_of_left_ne_nil (lowerForm_ne_nil before c cs) _

theorem lower_eq_empty_iff {s : String} : lower s = "" ↔ s = "" := by
  constructor
  · intro h
    have hchars : lowerAfter [] s.toList = [] := String.ofList_eq_empty_iff.1 h
    cases hs : s.toList with
    | nil => exact String.toList_eq_nil_iff.1 hs
    | cons c cs =>
      rw [hs] at hchars
      exact absurd hchars (lowerAfter_ne_nil [] c cs)
  · rintro rfl
    rfl

theorem isSpace_getLast_lowerAfter {cs : List Char} (h : ∀ c ∈ cs.getLast?, isSpace c = false)
    (before : List Char) : ∀ d ∈ (lowerAfter before cs).getLast?, isSpace d = false := by
  intro d hd
  induction cs generalizing before with
  | nil => simp [lowerAfter] at hd
  | cons c cs ih =>
    rw [lowerAfter_cons] at hd
    cases cs with
    | nil =>
      rw [lowerAfter, List.append_nil] at hd
      exact isSpace_of_mem_lowerForm (h c rfl) (List.mem_of_getLast? hd)
    | cons c' cs =>
      rw [List.getLast?_append_of_ne_nil _ (lowerAfter_ne_nil _ c' cs)] at hd
      exact ih (fun e he => h e (by rwa [List.getLast?_cons_cons])) _ hd

/-- Lower case keeps a tight text tight. -/
theorem tight_lowerAfter {cs : List Char} (h : Tight cs) (before : List Char) :
    Tight (lowerAfter before cs) where
  head := by
    intro d hd
    cases cs with
    | nil => simp [lowerAfter] at hd
    | cons c cs =>
      rw [lowerAfter_cons, List.head?_append_of_ne_nil _ (lowerForm_ne_nil before c cs)] at hd
      exact isSpace_of_mem_lowerForm (h.head c rfl) (List.mem_of_mem_head? hd)
  last := isSpace_getLast_lowerAfter h.last before

/-- It makes no difference whether a text is trimmed first or put in lower case first. -/
theorem lower_trim (s : String) : lower (trim s) = trim (lower s) := by
  obtain ⟨left, right, hsplit, hleft, htight, hright⟩ := exists_padding s.toList
  have hlower : lowerAfter [] s.toList = left ++ lowerAfter [] (trimmed s.toList) ++ right := by
    calc lowerAfter [] s.toList
        = lowerAfter [] (left ++ (trimmed s.toList ++ right)) := by
          rw [← List.append_assoc, ← hsplit]
      _ = left ++ lowerAfter ([] ++ left.reverse) (trimmed s.toList ++ right) := by
          rw [lowerAfter_space_append [] hleft, List.append_nil, List.nil_append]
      _ = left ++ lowerAfter [] (trimmed s.toList) ++ right := by
          rw [lowerAfter_padded [] _ hleft.reverse hright, List.append_assoc]
  rw [lower, lower, trim, trim, String.toList_ofList, String.toList_ofList, hlower,
    trimmed_padded hleft (tight_lowerAfter htight []) hright]

/-- Texts with the same lower-case form address the same. -/
theorem fold_congr {a b : String} (h : lower a = lower b) : fold a = fold b := by
  rw [fold, fold, lower_trim, lower_trim, h]

/-! ## ASCII letter case -/

/-- A character that is the lower-case form of nothing outside ASCII but itself. The Kelvin sign is
the one character outside ASCII whose lower-case form is in ASCII, the letter `k`. -/
def Plain (d : Char) : Prop :=
  d.toNat < 128 ∧ d ≠ 'k' ∨ isSpace d = true

theorem bounds_ascii :
    (lowerRuns.all fun r => (r.sources.all fun n => Nat.blt n 128) ||
      r.targets.all fun n => Nat.blt 127 n || n == 'k'.toNat) = true := by
  decide

theorem lowerCode_of_not_ascii {n : Nat} (hn : 128 ≤ n) (h : lowerCode n < 128) :
    lowerCode n = 'k'.toNat := by
  rcases lowerCode_cases n with h' | ⟨r, hr, hsource, htarget⟩
  · omega
  · have hbounds := List.all_eq_true.1 bounds_ascii r hr
    rw [Bool.or_eq_true, List.all_eq_true, List.all_eq_true] at hbounds
    rcases hbounds with hascii | hbounds
    · have hlow := hascii n hsource
      rw [Nat.blt_eq] at hlow
      omega
    · have hone := hbounds _ htarget
      rw [Bool.or_eq_true, Nat.blt_eq, beq_iff_eq] at hone
      omega

theorem lowerChar_of_ascii {c : Char} (h : c.toNat < 128) : lowerChar c = [c.toLower] := by
  rw [lowerChar, if_pos h]

theorem toLower_of_not_ascii {c : Char} (h : 128 ≤ c.toNat) : c.toLower = c := by
  refine dif_neg fun hupper => ?_
  have : c.toNat ≤ 90 := hupper.2
  omega

theorem isSpace_toLower (c : Char) : isSpace c.toLower = isSpace c := by
  by_cases hascii : c.toNat < 128
  · have hform := lowerChar_of_ascii hascii
    cases hspace : isSpace c with
    | true =>
      rw [lowerChar_of_space hspace] at hform
      rw [← List.singleton_inj.1 hform, hspace]
    | false => exact isSpace_of_mem_lowerChar hspace (hform ▸ List.mem_singleton_self _)
  · rw [toLower_of_not_ascii (Nat.le_of_not_lt hascii)]

theorem tight_of_map_toLower {cs : List Char} (h : Tight (cs.map Char.toLower)) : Tight cs where
  head := by
    intro c hc
    rw [← isSpace_toLower]
    exact h.head _ (by rw [List.head?_map]; exact Option.mem_map_of_mem _ hc)
  last := by
    intro c hc
    rw [← isSpace_toLower]
    exact h.last _ (by rw [List.getLast?_map]; exact Option.mem_map_of_mem _ hc)

theorem lowerForm_of_plain {before after : List Char} {c : Char}
    (h : ∀ d ∈ lowerForm before c after, Plain d) : lowerForm before c after = [c.toLower] := by
  unfold lowerForm at h ⊢
  by_cases hsigma : c = 'Σ'
  · rw [if_pos hsigma] at h
    have hform := h _ List.mem_cons_self
    split at hform <;> exact absurd hform (by unfold Plain; decide)
  · rw [if_neg hsigma] at h ⊢
    by_cases hdotted : c = 'İ'
    · have hforms : lowerChar c = ['i', '\u0307'] := by rw [hdotted]; rfl
      rw [hforms] at h
      exact absurd (h '\u0307' (by simp)) (by unfold Plain; decide)
    · by_cases hascii : c.toNat < 128
      · exact lowerChar_of_ascii hascii
      · have hc := Nat.le_of_not_lt hascii
        rw [lowerChar_eq hdotted] at h ⊢
        rcases h _ List.mem_cons_self with ⟨hlow, hk⟩ | hspace
        · rw [toNat_lowerCode] at hlow
          rw [lowerCode_of_not_ascii hc hlow] at hk
          exact absurd rfl hk
        · rw [isSpace_iff, toNat_lowerCode] at hspace
          rw [lowerCode_of_space (space_of_lowerCode hspace), Char.ofNat_toNat,
            toLower_of_not_ascii hc]

theorem lowerForm_of_plain_toLower {before after : List Char} {c : Char} (h : Plain c.toLower) :
    lowerForm before c after = [c.toLower] := by
  by_cases hascii : c.toNat < 128
  · have hsigma : c ≠ 'Σ' := by
      rintro rfl
      exact absurd hascii (by decide)
    rw [lowerForm, if_neg hsigma, lowerChar_of_ascii hascii]
  · have hc := toLower_of_not_ascii (Nat.le_of_not_lt hascii)
    rw [hc] at h ⊢
    have hspace := h.resolve_left fun hplain => hascii hplain.1
    have hsigma : c ≠ 'Σ' := by
      rintro rfl
      exact absurd hspace (by decide)
    rw [lowerForm, if_neg hsigma, lowerChar_of_space hspace]

/-- The texts with a plain lower-case form are those that spell it in any ASCII letter case. -/
theorem lowerAfter_eq_iff {cs ds : List Char} (h : ∀ d ∈ ds, Plain d) (before : List Char) :
    lowerAfter before cs = ds ↔ cs.map Char.toLower = ds := by
  induction cs generalizing before ds with
  | nil => rfl
  | cons c cs ih =>
    rw [lowerAfter_cons, List.map_cons]
    constructor
    · rintro rfl
      rw [List.forall_mem_append] at h
      rw [lowerForm_of_plain h.1, (ih h.2 _).1 rfl, List.singleton_append]
    · rintro rfl
      rw [List.forall_mem_cons] at h
      rw [lowerForm_of_plain_toLower h.1, (ih h.2 _).2 rfl, List.singleton_append]

end Scorecard.Text
