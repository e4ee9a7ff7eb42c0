import Scorecard.Datum
import Scorecard.Proofs.Text.Space

/-!
# The characters of numbers

A text that denotes a number is written with digits, signs, points, commas, underscores, white space
and the letters of exponents and of the words for infinity and not-a-number. Any other character
makes it a text that is no number.
-/

namespace Scorecard

namespace Decimal

open Scorecard.Text (isSpace)

/-- The letters of exponents and of the words for infinity and not-a-number. -/
def wordLetters : List Char := ['a', 'e', 'f', 'i', 'n', 't', 'y']

/-- The characters of plain numbers: the digits of ASCII, signs, the point, and the letters in
either case. -/
def isPlainChar (c : Char) : Bool :=
  c.isDigit || ['+', '-', '.'].contains c || wordLetters.contains c.toLower

theorem isPlainChar_of_isDigit {c : Char} (h : c.isDigit = true) : isPlainChar c = true := by
  simp [isPlainChar, h]

theorem forall_takeSign {p : Char → Prop} {cs : List Char} (hminus : p '-') (hplus : p '+')
    (h : ∀ c ∈ (takeSign cs).2, p c) : ∀ c ∈ cs, p c := by
  unfold takeSign at h
  split at h
  · exact List.forall_mem_cons.2 ⟨hminus, h⟩
  · exact List.forall_mem_cons.2 ⟨hplus, h⟩
  · exact h

theorem forall_takeWhile_isDigit (cs : List Char) :
    ∀ c ∈ cs.takeWhile Char.isDigit, isPlainChar c = true :=
  fun _ hc => isPlainChar_of_isDigit (List.mem_takeWhile_imp hc)

theorem exponent?_plain {cs : List Char} {n : Int} (h : exponent? cs = some n) :
    ∀ c ∈ cs, isPlainChar c = true := by
  cases cs with
  | nil => simp
  | cons c cs =>
    simp only [exponent?] at h
    split at h
    · rename_i hexponent
      simp only [Bool.and_eq_true, Bool.or_eq_true, decide_eq_true_eq,
        List.all_eq_true] at hexponent
      obtain ⟨⟨hletter, -⟩, hdigits⟩ := hexponent
      refine List.forall_mem_cons.2 ⟨?_, ?_⟩
      · rcases hletter with rfl | rfl <;> decide
      · exact forall_takeSign (by decide) (by decide)
          fun d hd => isPlainChar_of_isDigit (hdigits d hd)
    · cases h

/-- What stands before the exponent is digits, or digits, a point and digits. -/
theorem unsigned?_plain {cs : List Char} {value : Nat × Int} (h : unsigned? cs = some value) :
    ∀ c ∈ cs, isPlainChar c = true := by
  have hwhole := forall_takeWhile_isDigit cs
  rw [← List.takeWhile_append_dropWhile (p := Char.isDigit) (l := cs)]
  refine List.forall_mem_append.2 ⟨hwhole, ?_⟩
  simp only [unsigned?] at h
  generalize cs.dropWhile Char.isDigit = rest at h ⊢
  split at h
  · rename_i others
    obtain ⟨-, h⟩ := Option.ite_none_left_eq_some.1 h
    obtain ⟨exponent, hexponent, -⟩ := Option.map_eq_some_iff.1 h
    refine List.forall_mem_cons.2 ⟨by decide, ?_⟩
    rw [← List.takeWhile_append_dropWhile (p := Char.isDigit) (l := others)]
    exact List.forall_mem_append.2 ⟨forall_takeWhile_isDigit others, exponent?_plain hexponent⟩
  · obtain ⟨-, h⟩ := Option.ite_none_left_eq_some.1 h
    obtain ⟨exponent, hexponent, -⟩ := Option.map_eq_some_iff.1 h
    exact exponent?_plain hexponent

theorem numeral?_plain {cs : List Char} {n : Numeral} (h : numeral? cs = some n) :
    ∀ c ∈ cs, isPlainChar c = true := by
  obtain ⟨value, hvalue, -⟩ := Option.map_eq_some_iff.1 h
  exact forall_takeSign (by decide) (by decide) (unsigned?_plain hvalue)

theorem plain_of_word {cs : List Char} {word : String}
    (h : String.ofList (cs.map Char.toLower) = word)
    (hword : word.toList.all (wordLetters.contains ·) = true) :
    ∀ c ∈ cs, isPlainChar c = true := by
  intro c hc
  have hmem : c.toLower ∈ word.toList := by
    rw [← h, String.toList_ofList]
    exact List.mem_map_of_mem hc
  have hletter : wordLetters.contains c.toLower = true :=
    List.all_eq_true.1 hword c.toLower hmem
  rw [isPlainChar, hletter, Bool.or_true]

theorem special?_plain {cs : List Char} {x : Float} (h : special? cs = some x) :
    ∀ c ∈ cs, isPlainChar c = true := by
  simp only [special?] at h
  split at h
  · rename_i hinf
    rw [Bool.or_eq_true, decide_eq_true_eq, decide_eq_true_eq] at hinf
    rcases hinf with hword | hword
    · exact plain_of_word hword (by decide)
    · exact plain_of_word hword (by decide)
  · split at h
    · rename_i hword
      exact plain_of_word hword (by decide)
    · cases h

theorem plainDouble?_plain {cs : List Char} {x : Float} (h : plainDouble? cs = some x) :
    ∀ c ∈ cs, isPlainChar c = true := by
  simp only [plainDouble?] at h
  split at h
  · rename_i hspecial
    exact forall_takeSign (by decide) (by decide) (special?_plain hspecial)
  · obtain ⟨n, hn, -⟩ := Option.map_eq_some_iff.1 h
    exact numeral?_plain hn

/-- Nothing but underscores is left out. -/
theorem mem_of_dropUnderscores? {before : Char} {cs ds : List Char}
    (h : dropUnderscores? before cs = some ds) : ∀ c ∈ cs, c = '_' ∨ c ∈ ds := by
  fun_induction dropUnderscores? before cs generalizing ds with
  | case1 => simp
  | case2 before next rest hdigits ih =>
    exact List.forall_mem_cons.2 ⟨.inl rfl, ih h⟩
  | case3 => cases h
  | case4 => cases h
  | case5 before c cs hc ih =>
    obtain ⟨others, hothers, rfl⟩ := Option.map_eq_some_iff.1 h
    refine List.forall_mem_cons.2 ⟨.inr List.mem_cons_self, fun d hd => ?_⟩
    exact (ih hothers d hd).imp_right (List.mem_cons_of_mem c)

theorem double?_plain {cs : List Char} {x : Float} (h : double? cs = some x) :
    ∀ c ∈ cs, isSpace c = true ∨ asciiDigitForm c = '_' ∨
      isPlainChar (asciiDigitForm c) = true := by
  obtain ⟨ds, hds, hplain⟩ := Option.bind_eq_some_iff.1 h
  intro c hc
  cases hblank : isNumberBlank c with
  | true =>
    rw [isNumberBlank, Bool.and_eq_true] at hblank
    exact .inl hblank.1
  | false =>
    have hmem := List.mem_map_of_mem (f := asciiDigitForm) (Text.mem_trimWhile hc hblank)
    exact .inr ((mem_of_dropUnderscores? hds _ hmem).imp_right (plainDouble?_plain hplain _))

end Decimal

/-- A number is not written with a colon. -/
theorem colon_notMem_of_textNumber? {s : String} {x : Float} (h : textNumber? s = some x) :
    ':' ∉ s.toList := by
  obtain ⟨y, hy, -⟩ := Option.bind_eq_some_iff.1 h
  intro hcolon
  have htrimmed : ':' ∈ Text.trimmed s.toList := Text.mem_trimWhile hcolon (by decide)
  have hmem : ':' ∈ (Text.trimmed s.toList).filter (· != ',') :=
    List.mem_filter.2 ⟨htrimmed, by decide⟩
  have hplain := Decimal.double?_plain hy ':' hmem
  revert hplain
  decide

end Scorecard
