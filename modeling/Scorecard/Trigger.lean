import Scorecard.Rating
import Scorecard.Text.Split

/-!
# Triggers

A finding is triggered by ratings. A condition on one rating is a rating alone (`poor`), that
rating or a worse one (`poor-`), that rating or a better one (`good+`), or any rating at all
(`any`). A composite trigger joins clauses `kpi:condition` with the word `AND`, and holds if each
of its clauses does; a KPI without a rating meets no condition.
-/

namespace Scorecard

/-- A condition on a rating. -/
inductive Condition where
  /-- Exactly this rating. -/
  | exact (rating : Rating)
  /-- This rating or a worse one. -/
  | orWorse (rating : Rating)
  /-- This rating or a better one. -/
  | orBetter (rating : Rating)
  /-- Every rating. -/
  | any
  deriving DecidableEq, Repr

/-- A condition on the rating of a KPI. -/
structure Clause where
  /-- The KPI. -/
  kpiId : String
  /-- What its rating has to be. -/
  condition : Condition
  deriving DecidableEq, Repr

/-- Why a text is no trigger. -/
inductive TriggerError where
  /-- A condition without a text. -/
  | emptyCondition
  /-- A condition on no rating that there is. -/
  | unknownRating (condition : String)
  /-- A composite trigger without a text. -/
  | emptyComposite
  /-- A part of a composite trigger without a KPI or without a colon. -/
  | notClause (part : String)
  /-- A condition alone, in a rule that names no KPI. -/
  | noKpi
  deriving DecidableEq, Repr

/-- The wording of a trigger error. -/
def TriggerError.message : TriggerError → String
  | emptyCondition => "Empty trigger condition"
  | unknownRating condition => "Unknown rating in condition " ++ Text.quoted condition
  | emptyComposite => "Empty composite trigger"
  | notClause part => "Composite clause " ++ Text.quoted part ++ " is not '<kpi>:<condition>'"
  | noKpi => "Single-KPI rule has no kpi_ids"

namespace Condition

/-- Whether a rating meets a condition. -/
def holds : Condition → Rating → Bool
  | exact r, rating => rating = r
  | orWorse r, rating => rating.rank ≤ r.rank
  | orBetter r, rating => r.rank ≤ rating.rank
  | any, _ => true

/-- Whether a KPI with this rating or none meets a condition. -/
def holdsFor (c : Condition) : Option Rating → Bool
  | some rating => c.holds rating
  | none => false

/-- The kind of a condition by the sign at its end, and the text before the sign. -/
def kindOf (word : List Char) : (Rating → Condition) × List Char :=
  match word.getLast? with
  | some '-' => (orWorse, Text.trimmed word.dropLast)
  | some '+' => (orBetter, Text.trimmed word.dropLast)
  | _ => (exact, word)

/-- The condition that a text spells. -/
def parse (text : String) : Except TriggerError Condition :=
  let word := Text.fold text
  if word.isEmpty then .error .emptyCondition
  else if word = "any" then .ok any
  else
    let (kind, name) := kindOf word.toList
    match Rating.ofText? (String.ofList name) with
    | some rating => .ok (kind rating)
    | none => .error (.unknownRating text)

/-- Whether a KPI with this rating or none meets the condition that a text spells. Without a rating
none is met, whatever the text. -/
def metBy (rating : Option Rating) (text : String) : Except TriggerError Bool :=
  match rating with
  | none => .ok false
  | some r => (parse text).map (·.holds r)

end Condition

namespace Trigger

open Scorecard.Text (isSpace)

/-- What follows a separator at the front of the characters: white space, `AND`, white space. -/
def afterAnd? (cs : List Char) : Option (List Char) :=
  match cs with
  | [] => none
  | c :: _ =>
    if isSpace c then
      match cs.dropWhile isSpace with
      | 'A' :: 'N' :: 'D' :: d :: rest =>
        if isSpace d then some (rest.dropWhile isSpace) else none
      | _ => none
    else none

theorem afterAnd?_length {cs rest : List Char} (h : afterAnd? cs = some rest) :
    rest.length < cs.length := by
  cases cs with
  | nil => simp [afterAnd?] at h
  | cons c tail =>
    simp only [afterAnd?] at h
    split at h
    · split at h
      · rename_i d _ heq
        split at h
        · obtain rfl := Option.some.inj h
          have h₁ := (List.dropWhile_suffix (l := c :: tail) isSpace).length_le
          have h₂ := fun l : List Char => (List.dropWhile_suffix (l := l) isSpace).length_le
          rw [heq] at h₁
          simp only [List.length_cons] at h₁ ⊢
          have := h₂ ‹List Char›
          omega
        · simp at h
      · simp at h
    · simp at h

/-- The parts between the separators, found from the left. -/
def parts (cs : List Char) : List (List Char) :=
  match _h : afterAnd? cs with
  | some rest => [] :: parts rest
  | none =>
    match cs with
    | [] => [[]]
    | c :: cs =>
      match parts cs with
      | [] => [[c]]
      | p :: ps => (c :: p) :: ps
termination_by cs.length
decreasing_by
  · exact afterAnd?_length ‹_›
  · simp

/-- The clause that a part spells: a KPI, a colon, a condition. -/
def clause (part : List Char) : Except TriggerError Clause :=
  match Text.cut ':' part with
  | none => .error (.notClause (String.ofList part))
  | some (before, after) =>
    let kpiId := Text.trimmed before
    if kpiId.isEmpty then .error (.notClause (String.ofList part))
    else (Condition.parse (String.ofList after)).map fun c => ⟨String.ofList kpiId, c⟩

/-- The clauses of a composite trigger. -/
def parse (text : String) : Except TriggerError (List Clause) :=
  let cs := Text.trimmed text.toList
  if cs.isEmpty then .error .emptyComposite else (parts cs).mapM clause

/-- Whether all clauses hold, when `rating?` gives the rating of a KPI by its id in lower case. -/
def fires (clauses : List Clause) (rating? : String → Option Rating) : Bool :=
  clauses.all fun c => c.condition.holdsFor (rating? (Text.lower c.kpiId))

end Trigger

end Scorecard
