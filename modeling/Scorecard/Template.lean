import Scorecard.Datum
import Scorecard.Text.Name

/-!
# Templates

A template is a text with placeholders: an identifier between braces stands for the text of a
field. A field that is unknown or has no value leaves nothing. Everything else is text, and the
text of a field is not looked through again.
-/

namespace Scorecard

/-- Named data that a template may show; a name that is set again takes the new value. -/
abbrev Fields := List (String × Datum)

namespace Fields

/-- The text of a field that has a value. The fields of a run are texts and doubles, which have one
whatever they hold: the datum without a text, an integer of too many digits, is not among them. -/
def text? (fields : Fields) (name : String) : Option String :=
  match fields.lookup name with
  | none | some .null => none
  | some d => some d.toText

/-- The fields with others set. -/
def update (fields others : Fields) : Fields :=
  others.foldl (fun fields (name, d) => Assoc.put name d fields) fields

end Fields

namespace Template

open Scorecard.Text (isNameChar isNameStart)

/-- The name in a placeholder at the front of the characters, and what follows it. -/
def placeholder? : List Char → Option (List Char × List Char)
  | '\x7b' :: c :: cs =>
    if isNameStart c then
      match cs.dropWhile isNameChar with
      | '\x7d' :: rest => some (c :: cs.takeWhile isNameChar, rest)
      | _ => none
    else none
  | _ => none

theorem placeholder?_length {cs name rest : List Char}
    (h : placeholder? cs = some (name, rest)) : rest.length < cs.length := by
  unfold placeholder? at h
  split at h
  · rename_i c tail
    split at h
    · split at h
      · rename_i heq
        simp only [Option.some.injEq, Prod.mk.injEq] at h
        obtain ⟨-, rfl⟩ := h
        have := (List.dropWhile_suffix (l := tail) isNameChar).length_le
        rw [heq] at this
        simp only [List.length_cons] at this ⊢
        omega
      · simp at h
    · simp at h
  · simp at h

/-- The characters with their placeholders replaced. -/
def fill (text? : String → Option String) (cs : List Char) : List Char :=
  match _h : placeholder? cs with
  | some (name, rest) =>
    ((text? (String.ofList name)).getD "").toList ++ fill text? rest
  | none =>
    match cs with
    | [] => []
    | c :: cs => c :: fill text? cs
termination_by cs.length
decreasing_by
  · exact placeholder?_length ‹_›
  · simp

/-- A template with its placeholders replaced by the texts of fields. -/
def render (template : String) (text? : String → Option String) : String :=
  String.ofList (fill text? template.toList)

end Template

end Scorecard
