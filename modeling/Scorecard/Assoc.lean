/-!
# Maps in order of first insertion

Much of the input is a mapping whose order is shown again in the output: values by id, ratings by
id, findings by section. Such a map is a list of pairs in which a key keeps the place of its first
insertion and takes the value of its last one. `List.lookup` reads it.
-/

namespace Scorecard.Assoc

variable {κ α : Type} [BEq κ]

/-- Sets the value of a key; a new key goes to the end. -/
def put (key : κ) (value : α) : List (κ × α) → List (κ × α)
  | [] => [(key, value)]
  | (k, v) :: rest => if k == key then (k, value) :: rest else (k, v) :: put key value rest

/-- Adds a key that is not yet there; a key that is keeps its value. -/
def putNew (key : κ) (value : α) (entries : List (κ × α)) : List (κ × α) :=
  if (entries.lookup key).isSome then entries else entries ++ [(key, value)]

/-- The map of a list of entries: each key once, at its first place, with its last value. -/
def ofList (entries : List (κ × α)) : List (κ × α) :=
  entries.foldl (fun m (key, value) => put key value m) []

variable [LawfulBEq κ]

/-- A key reads back what was put under it, and other keys are untouched. -/
theorem lookup_put [DecidableEq κ] (k key : κ) (value : α) (m : List (κ × α)) :
    (put key value m).lookup k = if k = key then some value else m.lookup k := by
  induction m with
  | nil =>
    by_cases h : k = key
    · simp [put, h]
    · simp [put, List.lookup_cons, h, beq_false_of_ne h]
  | cons e rest ih =>
    obtain ⟨k', v⟩ := e
    by_cases h : k' = key
    · subst h
      by_cases hk : k = k'
      · simp [put, hk]
      · simp [put, List.lookup_cons, hk, beq_false_of_ne hk]
    · by_cases hk : k = k'
      · subst hk
        simp [put, h]
      · simp [put, List.lookup_cons, h, beq_false_of_ne hk, ih]

end Scorecard.Assoc
