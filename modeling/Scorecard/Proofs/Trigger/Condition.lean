import Scorecard.Trigger
import Scorecard.Proofs.Text.Case

/-!
# Texts of conditions

A text is a condition exactly if it is the word `any` or the name of a rating, which may have a
minus or plus sign after it, in any ASCII letter case. White space may stand around it and before
the sign. A condition has no other texts, and each of them is read as that condition.
-/

namespace Scorecard

open Text (AllSpace Tight Plain isSpace trimmed lowerAfter)

/-- The texts of a condition in lower case, without white space around them. -/
inductive Condition.Form : Condition → List Char → Prop
  /-- The word `any`. -/
  | any : Form .any "any".toList
  /-- A rating alone. -/
  | exact (r : Rating) : Form (.exact r) r.name.toList
  /-- A rating with a minus sign. -/
  | orWorse (r : Rating) {gap : List Char} (hgap : AllSpace gap) :
    Form (.orWorse r) (r.name.toList ++ gap ++ ['-'])
  /-- A rating with a plus sign. -/
  | orBetter (r : Rating) {gap : List Char} (hgap : AllSpace gap) :
    Form (.orBetter r) (r.name.toList ++ gap ++ ['+'])

/-- The texts of a condition: in any ASCII letter case, with white space around them. -/
def Condition.SpelledBy (c : Condition) (cs : List Char) : Prop :=
  ∃ left word right, cs = left ++ word ++ right ∧ AllSpace left ∧ c.Form (word.map Char.toLower) ∧
    AllSpace right

/-! ## Names of ratings -/

namespace Rating

theorem ascii_name (r : Rating) :
    (r.name.toList.all fun d => Nat.blt d.toNat 128 && d != 'k') = true := by
  cases r <;> decide

theorem plain_name (r : Rating) : ∀ d ∈ r.name.toList, Plain d := by
  intro d hd
  have hascii := List.all_eq_true.1 r.ascii_name d hd
  rw [Bool.and_eq_true, Nat.blt_eq, bne_iff_ne] at hascii
  exact .inl hascii

theorem tight_name (r : Rating) : Tight r.name.toList := by
  refine Text.tight_of_ends ?_
  cases r <;> decide

theorem ofText?_name (r : Rating) : ofText? r.name = some r := by
  cases r <;> decide

end Rating

namespace Condition

theorem Form.plain {c : Condition} {word : List Char} (h : c.Form word) :
    ∀ d ∈ word, Plain d := by
  have hsigned (r : Rating) {gap : List Char} (hgap : AllSpace gap) {sign : Char}
      (hsign : Plain sign) : ∀ d ∈ r.name.toList ++ gap ++ [sign], Plain d := by
    intro d hd
    rw [List.mem_append, List.mem_append, List.mem_singleton] at hd
    rcases hd with (hname | hpad) | rfl
    · exact r.plain_name d hname
    · exact .inr (hgap d hpad)
    · exact hsign
  cases h with
  | any =>
    intro d hd
    have hletters : d = 'a' ∨ d = 'n' ∨ d = 'y' := by simpa using hd
    rcases hletters with rfl | rfl | rfl <;> exact .inl (by decide)
  | exact r => exact r.plain_name
  | orWorse r hgap => exact hsigned r hgap (.inl (by decide))
  | orBetter r hgap => exact hsigned r hgap (.inl (by decide))

theorem Form.ne_nil {c : Condition} {word : List Char} (h : c.Form word) : word ≠ [] := by
  cases h with
  | any => decide
  | exact r => cases r <;> decide
  | orWorse => exact List.append_ne_nil_of_right_ne_nil _ (List.cons_ne_nil _ _)
  | orBetter => exact List.append_ne_nil_of_right_ne_nil _ (List.cons_ne_nil _ _)

theorem Form.tight {c : Condition} {word : List Char} (h : c.Form word) : Tight word := by
  have hsigned (r : Rating) (gap : List Char) {sign : Char} (hsign : isSpace sign = false) :
      Tight (r.name.toList ++ gap ++ [sign]) := by
    constructor
    · intro d hd
      refine r.tight_name.head d ?_
      rwa [List.append_assoc, List.head?_append_of_ne_nil _ (by cases r <;> decide)] at hd
    · intro d hd
      rw [List.getLast?_concat] at hd
      exact Option.some.inj hd ▸ hsign
  cases h with
  | any => exact Text.tight_of_ends (by decide)
  | exact r => exact r.tight_name
  | @orWorse r gap => exact hsigned r gap rfl
  | @orBetter r gap => exact hsigned r gap rfl

/-! ## Reading a form -/

theorem kindOf_minus (word : List Char) : kindOf (word ++ ['-']) = (orWorse, trimmed word) := by
  rw [kindOf, List.getLast?_concat, List.dropLast_concat]
  rfl

theorem kindOf_plus (word : List Char) : kindOf (word ++ ['+']) = (orBetter, trimmed word) := by
  rw [kindOf, List.getLast?_concat, List.dropLast_concat]
  rfl

theorem kindOf_cases (word : List Char) :
    (∃ front, word = front ++ ['-'] ∧ kindOf word = (orWorse, trimmed front)) ∨
      (∃ front, word = front ++ ['+'] ∧ kindOf word = (orBetter, trimmed front)) ∨
        kindOf word = (exact, word) := by
  rcases List.eq_nil_or_concat' word with rfl | ⟨front, sign, rfl⟩
  · exact .inr (.inr rfl)
  · by_cases hminus : sign = '-'
    · exact .inl ⟨front, by rw [hminus], by rw [hminus, kindOf_minus]⟩
    · by_cases hplus : sign = '+'
      · exact .inr (.inl ⟨front, by rw [hplus], by rw [hplus, kindOf_plus]⟩)
      · refine .inr (.inr ?_)
        rw [kindOf, List.getLast?_concat]
        split <;> simp_all

theorem kindOf_name (r : Rating) : kindOf r.name.toList = (exact, r.name.toList) := by
  cases r <;> rfl

/-- A text is read by its form alone. -/
theorem parse_of_fold {text : String} {word : List Char} (h : Text.fold text = String.ofList word)
    (hempty : word ≠ []) (hany : word ≠ "any".toList) {kind : Rating → Condition} {r : Rating}
    (hkind : kindOf word = (kind, r.name.toList)) : parse text = .ok (kind r) := by
  have hword : (String.ofList word).isEmpty = false := by
    rw [← Bool.not_eq_true, String.isEmpty_iff, String.ofList_eq_empty_iff]
    exact hempty
  have hne : ¬ String.ofList word = "any" := fun heq => hany (by rw [← heq, String.toList_ofList])
  rw [parse, h]
  dsimp only
  rw [hword, if_neg Bool.false_ne_true, if_neg hne, String.toList_ofList, hkind]
  dsimp only
  rw [String.ofList_toList, Rating.ofText?_name]

theorem Form.parse {c : Condition} {word : List Char} (h : c.Form word) {text : String}
    (hfold : Text.fold text = String.ofList word) : parse text = .ok c := by
  have hname (r : Rating) {gap : List Char} (hgap : AllSpace gap) :
      trimmed (r.name.toList ++ gap) = r.name.toList :=
    Text.trimmed_padded Text.allSpace_nil r.tight_name hgap
  have hany (front : List Char) {sign : Char} (hsign : sign ≠ 'y') :
      front ++ [sign] ≠ "any".toList := by
    intro heq
    have hlast := congrArg List.getLast? heq
    rw [List.getLast?_concat] at hlast
    exact hsign (Option.some.inj hlast)
  cases h with
  | any =>
    rw [Condition.parse, hfold]
    rfl
  | exact r =>
    exact parse_of_fold hfold (by cases r <;> decide) (by cases r <;> decide) (kindOf_name r)
  | orWorse r hgap =>
    refine parse_of_fold hfold (by simp) (hany _ (by decide)) ?_
    rw [kindOf_minus, hname r hgap]
  | orBetter r hgap =>
    refine parse_of_fold hfold (by simp) (hany _ (by decide)) ?_
    rw [kindOf_plus, hname r hgap]

/-! ## The form of what is read -/

theorem name_of_ofText? {word : List Char} (hstable : ∀ d ∈ word, Text.Stable d)
    (htight : Tight word) {r : Rating} (h : Rating.ofText? (String.ofList word) = some r) :
    word = r.name.toList := by
  rw [Rating.ofText?] at h
  have hname := List.find?_some h
  rw [decide_eq_true_eq] at hname
  rw [hname, Text.fold, Text.trim, Text.lower, String.toList_ofList, String.toList_ofList,
    String.toList_ofList, Text.trimmed_of_tight htight, Text.lowerAfter_of_stable hstable]

/-- The name that stands before a sign, at the front of a text. -/
theorem name_before_sign {front : List Char} {sign : Char}
    (hstable : ∀ d ∈ front ++ [sign], Text.Stable d) (htight : Tight (front ++ [sign])) {r : Rating}
    (h : Rating.ofText? (String.ofList (trimmed front)) = some r) :
    ∃ gap, AllSpace gap ∧ front = r.name.toList ++ gap := by
  obtain ⟨left, gap, hfront, hleft, htrimmed, hgap⟩ := Text.exists_padding front
  have hmem : ∀ d ∈ trimmed front, Text.Stable d := fun d hd =>
    hstable d (List.mem_append_left _ (by rw [hfront]; simp [hd]))
  have hname := name_of_ofText? hmem htrimmed h
  cases left with
  | nil => exact ⟨gap, hgap, by rw [← hname]; exact hfront⟩
  | cons c left =>
    have hhead := htight.head c (by rw [hfront]; rfl)
    rw [hleft c List.mem_cons_self] at hhead
    cases hhead

/-- What is read is the word `any`, or a kind of condition and the name of a rating. -/
theorem parse_eq_ok_cases {text : String} {c : Condition} (h : parse text = .ok c) :
    Text.fold text = "any" ∧ c = any ∨
      ∃ r, Rating.ofText? (String.ofList (kindOf (Text.fold text).toList).2) = some r ∧
        c = (kindOf (Text.fold text).toList).1 r := by
  rw [parse] at h
  dsimp only at h
  split at h
  · cases h
  · split at h
    · rename_i hany
      exact .inl ⟨hany, (Except.ok.inj h).symm⟩
    · split at h
      · rename_i r hr
        exact .inr ⟨r, hr, (Except.ok.inj h).symm⟩
      · cases h

/-- The name of a rating and the kind that stands behind it make up a form. -/
theorem form_of_kindOf {word : List Char} (hstable : ∀ d ∈ word, Text.Stable d)
    (htight : Tight word) {r : Rating}
    (h : Rating.ofText? (String.ofList (kindOf word).2) = some r) :
    Form ((kindOf word).1 r) word := by
  rcases kindOf_cases word with ⟨front, rfl, hkind⟩ | ⟨front, rfl, hkind⟩ | hkind
  · rw [hkind] at h ⊢
    obtain ⟨gap, hgap, rfl⟩ := name_before_sign hstable htight h
    exact .orWorse r hgap
  · rw [hkind] at h ⊢
    obtain ⟨gap, hgap, rfl⟩ := name_before_sign hstable htight h
    exact .orBetter r hgap
  · rw [hkind] at h ⊢
    dsimp only at h ⊢
    have hname := name_of_ofText? hstable htight h
    rw [hname]
    exact .exact r

theorem form_of_parse {text : String} {c : Condition} (h : parse text = .ok c) :
    c.Form (Text.fold text).toList := by
  have hfold : (Text.fold text).toList = lowerAfter [] (trimmed text.toList) := by
    rw [Text.fold, Text.trim, Text.lower, String.toList_ofList, String.toList_ofList]
  rcases parse_eq_ok_cases h with ⟨hany, hc⟩ | ⟨r, hr, hc⟩
  · rw [hany, hc]
    exact .any
  · rw [hc]
    refine form_of_kindOf ?_ ?_ hr
    · rw [hfold]
      exact fun d hd => Text.stable_of_mem_lowerAfter hd
    · rw [hfold]
      exact Text.tight_lowerAfter (Text.tight_trimmed _) []

/-- The texts that are read as a condition are the texts of that condition. -/
theorem parse_eq_ok_iff {text : String} {c : Condition} :
    parse text = .ok c ↔ c.SpelledBy text.toList := by
  have hfold : Text.fold text = String.ofList (lowerAfter [] (trimmed text.toList)) := by
    rw [Text.fold, Text.trim, Text.lower, String.toList_ofList]
  constructor
  · intro h
    have hform := form_of_parse h
    rw [hfold, String.toList_ofList] at hform
    obtain ⟨left, right, hsplit, hleft, -, hright⟩ := Text.exists_padding text.toList
    refine ⟨left, _, right, hsplit, hleft, ?_, hright⟩
    rwa [(Text.lowerAfter_eq_iff hform.plain []).1 rfl]
  · rintro ⟨left, word, right, hsplit, hleft, hform, hright⟩
    refine hform.parse ?_
    rw [hfold, hsplit, Text.trimmed_padded hleft (Text.tight_of_map_toLower hform.tight) hright,
      (Text.lowerAfter_eq_iff hform.plain []).2 rfl]

end Condition

end Scorecard
