import Scorecard.Proofs.Text.Case

/-!
# Upper case

Upper case is stable as lower case is: a text in upper case stays as it is when it is put in upper
case again, and it makes no difference whether a text is trimmed first or put in upper case first.

Both rest on the tables. Some characters turn into several, so the form of a code point is a list,
and no code point in such a list has another form than itself.
-/

namespace Scorecard.Text

/-! ## Code points -/

/-- The code points that have another upper-case form than themselves, table by table. -/
def movedUp : List (List Nat) :=
  upperExpansions.map Prod.fst :: upperRuns.map CaseRun.sources

/-- The code points in these forms. -/
def upperParts : List (List Nat) :=
  upperExpansions.flatMap Prod.snd :: upperRuns.map CaseRun.targets

/-- The upper-case form of a code point. -/
def upperForm (n : Nat) : List Nat :=
  (upperExpansions.lookup n).getD [CaseRun.applyAll upperRuns n]

/-- A code point is its own form, or a table moves it to another one. -/
theorem upperForm_cases (n : Nat) :
    upperForm n = [n] ∨ (∃ codes ∈ movedUp, n ∈ codes) ∧
      ∀ m ∈ upperForm n, ∃ codes ∈ upperParts, m ∈ codes := by
  unfold upperForm
  cases hlookup : upperExpansions.lookup n with
  | some form =>
    obtain ⟨before, after, hsplit, -⟩ := List.lookup_eq_some_iff.1 hlookup
    have hmem : (n, form) ∈ upperExpansions := by simp [hsplit]
    refine .inr ⟨⟨_, List.mem_cons_self, List.mem_map_of_mem hmem⟩, ?_⟩
    intro m hm
    exact ⟨_, List.mem_cons_self, List.mem_flatMap_of_mem hmem hm⟩
  | none =>
    rw [Option.getD_none]
    rcases CaseRun.applyAll_cases upperRuns n with h | ⟨r, hr, hsource, htarget⟩
    · exact .inl (by rw [h])
    · refine .inr ⟨⟨_, List.mem_cons_of_mem _ (List.mem_map_of_mem hr), hsource⟩, ?_⟩
      intro m hm
      rw [List.mem_singleton.1 hm]
      exact ⟨_, List.mem_cons_of_mem _ (List.mem_map_of_mem hr), htarget⟩

theorem upperForm_of_notMem {n : Nat} (h : ∀ codes ∈ movedUp, n ∉ codes) : upperForm n = [n] := by
  rcases upperForm_cases n with h' | ⟨⟨codes, hcodes, hn⟩, -⟩
  · exact h'
  · exact absurd hn (h codes hcodes)

/-- The characters of ASCII that are no small letters. -/
def unmovedAscii : List Nat :=
  List.range' 0 97 ++ List.range' 123 5

/-- Nothing is moved up twice, and neither white space nor ASCII is moved, small letters apart. -/
theorem mask_unmoved_movedUp :
    maskAll (spaceCodes :: unmovedAscii :: upperParts) &&& maskAll movedUp = 0 := by
  decide +kernel

theorem upperForm_of_unmoved {n : Nat} {codes : List Nat}
    (hcodes : codes ∈ spaceCodes :: unmovedAscii :: upperParts) (h : n ∈ codes) :
    upperForm n = [n] := by
  apply upperForm_of_notMem
  intro codes' hcodes'
  exact notMem_of_mask mask_unmoved_movedUp hcodes hcodes' h

theorem upperForm_of_mem {n m : Nat} (h : m ∈ upperForm n) : upperForm m = [m] := by
  rcases upperForm_cases n with h' | ⟨-, hparts⟩
  · rw [h', List.mem_singleton] at h
    rw [h, h']
  · obtain ⟨codes, hcodes, hm⟩ := hparts m h
    exact upperForm_of_unmoved (List.mem_cons_of_mem _ (List.mem_cons_of_mem _ hcodes)) hm

theorem bounds_upperParts :
    (upperParts.all fun codes => codes.all fun n =>
      Nat.blt n 0xD800 || (Nat.blt 0xDFFF n && Nat.blt n 0x110000)) = true := by
  decide +kernel

theorem isValidChar_of_mem_upperForm {n m : Nat} (hn : n.isValidChar) (h : m ∈ upperForm n) :
    m.isValidChar := by
  rcases upperForm_cases n with h' | ⟨-, hparts⟩
  · rw [h', List.mem_singleton] at h
    rwa [h]
  · obtain ⟨codes, hcodes, hm⟩ := hparts m h
    have hbounds := List.all_eq_true.1 (List.all_eq_true.1 bounds_upperParts codes hcodes) m hm
    simpa [Nat.isValidChar, Nat.blt_eq] using hbounds

/-! ## White space -/

theorem mask_upperParts_spaceCodes : maskAll upperParts &&& maskAll [spaceCodes] = 0 := by
  decide +kernel

theorem upperForm_of_space {n : Nat} (h : n ∈ spaceCodes) : upperForm n = [n] :=
  upperForm_of_unmoved List.mem_cons_self h

theorem space_of_mem_upperForm {n m : Nat} (h : m ∈ upperForm n) (hm : m ∈ spaceCodes) :
    n ∈ spaceCodes := by
  rcases upperForm_cases n with h' | ⟨-, hparts⟩
  · rw [h', List.mem_singleton] at h
    rwa [← h]
  · obtain ⟨codes, hcodes, hmem⟩ := hparts m h
    exact absurd hm (notMem_of_mask mask_upperParts_spaceCodes hcodes List.mem_cons_self hmem)

/-! ## One character -/

theorem upperForm_ascii {n : Nat} (h : n < 128) :
    (upperForm n).map Char.ofNat = [(Char.ofNat n).toUpper] := by
  by_cases hsmall : n ∈ List.range' 97 26
  · have hall : ∀ n ∈ List.range' 97 26,
        (upperForm n).map Char.ofNat = [(Char.ofNat n).toUpper] := by decide
    exact hall n hsmall
  · have hother : n ∈ unmovedAscii := by
      simp only [unmovedAscii, List.mem_append, List.mem_range'_1] at hsmall ⊢
      omega
    have hall : ∀ n ∈ unmovedAscii, (Char.ofNat n).toUpper = Char.ofNat n := by decide
    rw [upperForm_of_unmoved (List.mem_cons_of_mem _ List.mem_cons_self) hother, hall n hother,
      List.map_singleton]

/-- The tables hold for ASCII as well. -/
theorem upperChar_eq (c : Char) : upperChar c = (upperForm c.toNat).map Char.ofNat := by
  unfold upperChar
  split
  · rename_i hascii
    rw [upperForm_ascii hascii, Char.ofNat_toNat]
  · unfold upperForm
    cases upperExpansions.lookup c.toNat <;> rfl

theorem toNat_of_mem_upperChar {c d : Char} (h : d ∈ upperChar c) :
    d.toNat ∈ upperForm c.toNat := by
  rw [upperChar_eq] at h
  obtain ⟨n, hn, rfl⟩ := List.mem_map.1 h
  have hvalid : n.isValidChar := isValidChar_of_mem_upperForm c.valid hn
  have hcode : (Char.ofNat n).toNat = n := by
    rw [Char.ofNat, dif_pos hvalid]
    exact UInt32.toNat_ofNatLT
  rwa [hcode]

theorem upperChar_of_upperForm {c : Char} (h : upperForm c.toNat = [c.toNat]) :
    upperChar c = [c] := by
  rw [upperChar_eq, h, List.map_singleton, Char.ofNat_toNat]

/-- Upper-case forms are stable. -/
theorem upperChar_of_mem {c d : Char} (h : d ∈ upperChar c) : upperChar d = [d] :=
  upperChar_of_upperForm (upperForm_of_mem (toNat_of_mem_upperChar h))

theorem upperChar_of_space {c : Char} (h : isSpace c = true) : upperChar c = [c] :=
  upperChar_of_upperForm (upperForm_of_space (isSpace_iff.1 h))

theorem isSpace_of_mem_upperChar {c d : Char} (h : isSpace c = false) (hd : d ∈ upperChar c) :
    isSpace d = false := by
  by_contra hspace
  rw [Bool.not_eq_false, isSpace_iff] at hspace
  have hc := space_of_mem_upperForm (toNat_of_mem_upperChar hd) hspace
  rw [isSpace_iff.2 hc] at h
  cases h

theorem upperChar_ne_nil (c : Char) : upperChar c ≠ [] := by
  have hforms : ∀ form ∈ upperExpansions.map Prod.snd, form ≠ [] := by decide
  rw [upperChar_eq, ne_eq, List.map_eq_nil_iff]
  unfold upperForm
  cases hlookup : upperExpansions.lookup c.toNat with
  | none => exact List.cons_ne_nil _ _
  | some form =>
    obtain ⟨before, after, hsplit, -⟩ := List.lookup_eq_some_iff.1 hlookup
    exact hforms form (by simp [hsplit])

/-! ## Texts -/

theorem flatMap_upperChar_of_stable {cs : List Char} (h : ∀ c ∈ cs, upperChar c = [c]) :
    cs.flatMap upperChar = cs := by
  rw [List.flatMap_congr h, List.flatMap_singleton']

/-- Upper case is stable. -/
@[simp]
theorem upper_upper (s : String) : upper (upper s) = upper s := by
  have hstable : ∀ d ∈ s.toList.flatMap upperChar, upperChar d = [d] := by
    intro d hd
    obtain ⟨c, -, hc⟩ := List.mem_flatMap.1 hd
    exact upperChar_of_mem hc
  rw [upper, upper, String.toList_ofList, flatMap_upperChar_of_stable hstable]

theorem flatMap_upperChar_eq_nil_iff {cs : List Char} : cs.flatMap upperChar = [] ↔ cs = [] := by
  rw [List.flatMap_eq_nil_iff]
  constructor
  · intro h
    cases cs with
    | nil => rfl
    | cons c cs => exact absurd (h c List.mem_cons_self) (upperChar_ne_nil c)
  · rintro rfl
    simp

theorem upper_eq_empty_iff {s : String} : upper s = "" ↔ s = "" := by
  rw [upper, String.ofList_eq_empty_iff, flatMap_upperChar_eq_nil_iff, String.toList_eq_nil_iff]

/-- Upper case keeps a tight text tight. -/
theorem tight_upper {cs : List Char} (h : Tight cs) : Tight (cs.flatMap upperChar) where
  head := by
    intro d hd
    cases cs with
    | nil => simp at hd
    | cons c cs =>
      rw [List.flatMap_cons, List.head?_append_of_ne_nil _ (upperChar_ne_nil c)] at hd
      exact isSpace_of_mem_upperChar (h.head c rfl) (List.mem_of_mem_head? hd)
  last := by
    intro d hd
    rcases List.eq_nil_or_concat' cs with rfl | ⟨cs, c, rfl⟩
    · simp at hd
    · rw [List.flatMap_append, List.flatMap_singleton,
        List.getLast?_append_of_ne_nil _ (upperChar_ne_nil c)] at hd
      exact isSpace_of_mem_upperChar (h.last c List.getLast?_concat) (List.mem_of_getLast? hd)

/-- It makes no difference whether a text is trimmed first or put in upper case first. -/
theorem upper_trim (s : String) : upper (trim s) = trim (upper s) := by
  obtain ⟨left, right, hsplit, hleft, htight, hright⟩ := exists_padding s.toList
  have hspace {pad : List Char} (hpad : AllSpace pad) : pad.flatMap upperChar = pad :=
    flatMap_upperChar_of_stable fun c hc => upperChar_of_space (hpad c hc)
  have hupper : s.toList.flatMap upperChar =
      left ++ (trimmed s.toList).flatMap upperChar ++ right := by
    conv_lhs => rw [hsplit]
    rw [List.flatMap_append, List.flatMap_append, hspace hleft, hspace hright]
  rw [upper, upper, trim, trim, String.toList_ofList, String.toList_ofList, hupper,
    trimmed_padded hleft (tight_upper htight) hright]

end Scorecard.Text
