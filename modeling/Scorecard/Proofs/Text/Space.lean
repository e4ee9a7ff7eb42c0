import Scorecard.Text.Space
import Mathlib.Data.List.DropRight

/-!
# Padding

A text is its trimmed form with white space on both sides, and there is only one way to take it
apart so: the part in the middle is tight, that is, it has no white space at its ends.
-/

namespace Scorecard.Text

/-- Characters that neither start nor end with white space. -/
structure Tight (cs : List Char) : Prop where
  /-- The first character is no white space. -/
  head : ∀ c ∈ cs.head?, isSpace c = false
  /-- The last character is no white space. -/
  last : ∀ c ∈ cs.getLast?, isSpace c = false

/-- Characters that are all white space. -/
def AllSpace (cs : List Char) : Prop :=
  ∀ c ∈ cs, isSpace c = true

theorem allSpace_nil : AllSpace [] :=
  fun _ hc => absurd hc List.not_mem_nil

theorem allSpace_of_all {cs : List Char} (h : cs.all isSpace = true) : AllSpace cs :=
  List.all_eq_true.1 h

theorem AllSpace.reverse {cs : List Char} (h : AllSpace cs) : AllSpace cs.reverse :=
  fun c hc => h c (List.mem_reverse.1 hc)

/-- Whether the ends of a text are white space can be computed. -/
theorem tight_of_ends {cs : List Char}
    (h : (cs.head?.all (!isSpace ·) && cs.getLast?.all (!isSpace ·)) = true) : Tight cs := by
  rw [Bool.and_eq_true, Option.all_eq_true, Option.all_eq_true] at h
  exact ⟨fun c hc => by simpa using h.1 c hc, fun c hc => by simpa using h.2 c hc⟩

theorem dropWhile_of_head {cs : List Char} (h : ∀ c ∈ cs.head?, isSpace c = false) :
    cs.dropWhile isSpace = cs := by
  cases cs with
  | nil => rfl
  | cons c cs => rw [List.dropWhile_cons_of_neg (by simp [h c rfl])]

theorem isSpace_head_dropWhile (cs : List Char) :
    ∀ c ∈ (cs.dropWhile isSpace).head?, isSpace c = false := by
  intro c hc
  have hhead := List.head?_dropWhile_not isSpace cs
  rw [Option.mem_def.1 hc] at hhead
  simpa using hhead

/-- Trimming takes the padding off. -/
theorem trimmed_padded {left cs right : List Char} (hleft : AllSpace left) (hcs : Tight cs)
    (hright : AllSpace right) : trimmed (left ++ cs ++ right) = cs := by
  cases cs with
  | nil =>
    have hall : ∀ c ∈ left ++ [] ++ right, isSpace c = true := by
      intro c hc
      simp only [List.append_nil, List.mem_append] at hc
      exact hc.elim (hleft c) (hright c)
    rw [trimmed, trimWhile, List.dropWhile_eq_nil_iff.2 hall]
    rfl
  | cons c cs =>
    have hfront : (left ++ (c :: cs) ++ right).dropWhile isSpace = c :: cs ++ right := by
      rw [List.append_assoc, List.dropWhile_append_of_pos hleft]
      exact dropWhile_of_head fun d hd => hcs.head d hd
    have hback : (c :: cs ++ right).reverse.dropWhile isSpace = (c :: cs).reverse := by
      rw [List.reverse_append, List.dropWhile_append_of_pos hright.reverse]
      exact dropWhile_of_head fun d hd => hcs.last d (by rwa [← List.head?_reverse])
    rw [trimmed, trimWhile, dropEndWhile, hfront, hback, List.reverse_reverse]

theorem trimmed_of_tight {cs : List Char} (h : Tight cs) : trimmed cs = cs := by
  have := trimmed_padded allSpace_nil h allSpace_nil
  rwa [List.nil_append, List.append_nil] at this

/-- White space at the front of a text can be taken off in one way only. -/
theorem eq_of_space_append {left left' cs cs' : List Char} (hleft : AllSpace left)
    (hleft' : AllSpace left') (hcs : ∀ c ∈ cs.head?, isSpace c = false)
    (hcs' : ∀ c ∈ cs'.head?, isSpace c = false) (h : left ++ cs = left' ++ cs') : cs = cs' := by
  have hdrop := congrArg (List.dropWhile isSpace) h
  rw [List.dropWhile_append_of_pos hleft, List.dropWhile_append_of_pos hleft'] at hdrop
  rwa [Text.dropWhile_of_head hcs, Text.dropWhile_of_head hcs'] at hdrop

/-- A character of another class than what is trimmed away stays. -/
theorem mem_trimWhile {p : Char → Bool} {cs : List Char} {c : Char} (hc : c ∈ cs)
    (hp : p c = false) : c ∈ trimWhile p cs := by
  have hdrop : ∀ {ds : List Char}, c ∈ ds → c ∈ ds.dropWhile p := by
    intro ds hmem
    rw [← List.takeWhile_append_dropWhile (p := p) (l := ds)] at hmem
    rcases List.mem_append.1 hmem with htaken | hdropped
    · rw [List.mem_takeWhile_imp htaken] at hp
      cases hp
    · exact hdropped
  rw [trimWhile, dropEndWhile, List.mem_reverse]
  exact hdrop (List.mem_reverse.2 (hdrop hc))

/-- What trimming leaves is tight, and what it takes away is white space. -/
theorem exists_padding (cs : List Char) :
    ∃ left right, cs = left ++ trimmed cs ++ right ∧ AllSpace left ∧ Tight (trimmed cs) ∧
      AllSpace right := by
  set front := cs.dropWhile isSpace with hfront
  have hsplit : cs = cs.takeWhile isSpace ++ trimmed cs ++ front.rtakeWhile isSpace := by
    rw [List.append_assoc]
    change _ = _ ++ (front.rdropWhile isSpace ++ _)
    rw [List.rdropWhile_append_rtakeWhile, hfront, List.takeWhile_append_dropWhile]
  refine ⟨_, _, hsplit, fun c hc => List.mem_takeWhile_imp hc, ⟨?_, ?_⟩,
    fun c hc => List.mem_rtakeWhile_imp hc⟩
  · intro c hc
    have hmem : c ∈ front.head? := by
      obtain ⟨tail, htail⟩ := List.rdropWhile_prefix isSpace front
      rw [← htail]
      exact List.mem_head?_append_of_mem_head? hc
    have := List.head?_dropWhile_not isSpace cs
    rw [← hfront, Option.mem_def.1 hmem] at this
    exact this
  · intro c hc
    have hne : front.rdropWhile isSpace ≠ [] := by
      rintro h
      rw [show trimmed cs = front.rdropWhile isSpace from rfl, h] at hc
      simp at hc
    have := List.rdropWhile_last_not isSpace front hne
    rw [show trimmed cs = front.rdropWhile isSpace from rfl,
      List.getLast?_eq_some_getLast hne] at hc
    obtain rfl := Option.some.inj hc
    simpa using this

theorem allSpace_iff_trimmed_eq_nil {cs : List Char} : AllSpace cs ↔ trimmed cs = [] := by
  constructor
  · intro h
    have hpadded := trimmed_padded h (tight_of_ends rfl : Tight []) allSpace_nil
    rwa [List.append_nil, List.append_nil] at hpadded
  · intro h
    obtain ⟨left, right, hsplit, hleft, -, hright⟩ := exists_padding cs
    rw [h, List.append_nil] at hsplit
    rw [hsplit]
    exact List.forall_mem_append.2 ⟨hleft, hright⟩

theorem isBlank_iff {s : String} : isBlank s = true ↔ trim s = "" := by
  rw [isBlank, List.all_eq_true, trim, String.ofList_eq_empty_iff]
  exact allSpace_iff_trimmed_eq_nil

theorem tight_trimmed (cs : List Char) : Tight (trimmed cs) := by
  obtain ⟨-, -, -, -, h, -⟩ := exists_padding cs
  exact h

@[simp]
theorem trimmed_trimmed (cs : List Char) : trimmed (trimmed cs) = trimmed cs :=
  trimmed_of_tight (tight_trimmed cs)

@[simp]
theorem trim_trim (s : String) : trim (trim s) = trim s := by
  rw [trim, trim, String.toList_ofList, trimmed_trimmed]

end Scorecard.Text
