import EntityModel.QualifiedName
import Mathlib.Data.List.Basic

/-!
Names and their texts. A text is read as the name that has it, provided that the name can be told
from its text; other names have texts that are read as another name or not at all. A text is not read
exactly if it has no dot or its last dot stands at one of its ends.
-/

set_option autoImplicit false

namespace EntityModel.QualifiedName

section Positions

variable {c : Char} {text : List Char} {position : Nat}

/-- The character stands at a position and nowhere behind it. -/
def IsLastAt (c : Char) (text : List Char) (position : Nat) : Prop :=
  text[position]? = some c ∧ c ∉ text.drop (position + 1)

/-- A text is split at the last occurrence. -/
theorem isLastAt_iff : IsLastAt c text position ↔
    ∃ before after, splitAtLast? c text = some (before, after) ∧ before.length = position := by
  simp only [splitAtLast?_eq_some_iff]
  constructor
  · rintro ⟨found, absent⟩
    obtain ⟨inside, here⟩ := List.getElem?_eq_some_iff.1 found
    refine ⟨text.take position, text.drop (position + 1), ⟨?_, absent⟩, ?_⟩
    · rw [← here, List.getElem_cons_drop, List.take_append_drop]
    · exact List.length_take_of_le (Nat.le_of_lt inside)
  · rintro ⟨before, after, ⟨rfl, absent⟩, rfl⟩
    refine ⟨by simp, ?_⟩
    rwa [List.drop_length_add_append, List.drop_one, List.tail_cons]

/-- No parts are found if there is no dot or the last one stands at an end. -/
theorem parts?_eq_none_iff : parts? text = none ↔ '.' ∉ text ∨
    ∃ position, IsLastAt '.' text position ∧ (position = 0 ∨ position + 1 = text.length) := by
  unfold parts?
  split
  · next before after split =>
    obtain ⟨whole, -⟩ := splitAtLast?_eq_some_iff.1 split
    have dotted : '.' ∈ text := by simp [whole]
    have last (position : Nat) : IsLastAt '.' text position ↔ before.length = position := by
      simp [isLastAt_iff, split]
    have ends : before.length = 0 ∨ before.length + 1 = text.length ↔
        before = [] ∨ after = [] := by
      simp [whole]
    simp only [last, exists_eq_left', ends, dotted, not_true_eq_false, false_or, ite_eq_left_iff,
      reduceCtorEq, imp_false, not_not]
  · next split => exact iff_of_true rfl (.inl (splitAtLast?_eq_none_iff.1 split))

end Positions

/-- A name that is told from its text: both parts are there, and the simple name has no dot. -/
def IsReadable (q : QualifiedName) : Prop := q.space ≠ "" ∧ q.name ≠ "" ∧ '.' ∉ q.name.toList

instance (q : QualifiedName) : Decidable q.IsReadable := inferInstanceAs (Decidable (_ ∧ _))

section Reading

variable {q : QualifiedName} {text current : String}

theorem toList_text (q : QualifiedName) : q.text.toList = q.space.toList ++ '.' :: q.name.toList := by
  simp [QualifiedName.text]

theorem ofText?_eq_some_iff_parts : ofText? text = some q ↔
    parts? text.toList = some (q.space.toList, q.name.toList) := by
  rw [ofText?, Option.map_eq_some_iff]
  constructor
  · rintro ⟨⟨before, after⟩, parts, rfl⟩
    simpa using parts
  · intro parts
    exact ⟨_, parts, by simp⟩

theorem ofText?_eq_some_iff : ofText? text = some q ↔ q.text = text ∧ q.IsReadable := by
  have whole : text.toList = q.space.toList ++ '.' :: q.name.toList ↔ q.text = text := by
    rw [← toList_text, String.toList_inj, eq_comm]
  have filled (part : String) : part.toList ≠ [] ↔ part ≠ "" := by simp
  rw [ofText?_eq_some_iff_parts, parts?_eq_some_iff, whole, filled, filled, IsReadable]

theorem ofText?_text_iff : ofText? q.text = some q ↔ q.IsReadable := by
  rw [ofText?_eq_some_iff, and_iff_right rfl]

/-- A dot in the simple name is taken for the one between the parts. -/
example : ofText? (QualifiedName.text ⟨"a", "b.c"⟩) = some ⟨"a.b", "c"⟩ := by decide

theorem ofText?_eq_none_iff : ofText? text = none ↔ '.' ∉ text.toList ∨
    ∃ position, IsLastAt '.' text.toList position ∧
      (position = 0 ∨ position + 1 = text.length) := by
  rw [ofText?, Option.map_eq_none_iff, parts?_eq_none_iff, String.length_toList]

/-- Whether the text of a name means the name does not depend on the current namespace. -/
theorem ofReference_text_iff : ofReference current q.text = q ↔ q.IsReadable := by
  rw [← ofText?_text_iff, ofReference]
  cases read : ofText? q.text with
  | some other => simp
  | none =>
    -- The text would have to be the simple name, which is shorter.
    refine iff_of_false (fun same => ?_) nofun
    have length : q.text.length = q.name.length := congrArg (String.length ∘ name) same
    simp [QualifiedName.text] at length

end Reading

end EntityModel.QualifiedName
