import EntityModel.Enumeration.Uri
import Mathlib.Data.List.TakeWhile

/-!
Literals of enumerations inside a URI. The text in front of the first quote is split at its last
dot, so a literal comes back exactly if the qualified name of the enumeration survives the split;
nothing checks this when the enumeration is built. What is accepted is what is written.
-/

set_option autoImplicit false

namespace EntityModel

open EntityModel.Text

/-- A text is cut at the first occurrence of a character. -/
theorem Text.cut_iff {c : Char} {text opening rest : List Char} :
    text.takeWhile (· ≠ c) = opening ∧ text.dropWhile (· ≠ c) = c :: rest ↔
      text = opening ++ c :: rest ∧ c ∉ opening := by
  constructor
  · rintro ⟨rfl, remains⟩
    refine ⟨by rw [← remains, List.takeWhile_append_dropWhile], fun mem => ?_⟩
    simpa using List.mem_takeWhile_imp mem
  · rintro ⟨rfl, absent⟩
    have before : ∀ d ∈ opening, decide (d ≠ c) = true :=
      fun d mem => decide_eq_true fun same => absent (same ▸ mem)
    rw [List.takeWhile_append_of_pos before, List.dropWhile_append_of_pos before]
    simp

/-- A name that can be told from its text, also when a quote follows: both parts are there, the
simple name has no dot, and neither part has a quote. -/
def QualifiedName.IsQuotable (q : QualifiedName) : Prop :=
  q.space ≠ "" ∧ q.name ≠ "" ∧ '.' ∉ q.name.toList ∧
    '\'' ∉ q.space.toList ∧ '\'' ∉ q.name.toList

instance (q : QualifiedName) : Decidable q.IsQuotable := inferInstanceAs (Decidable (_ ∧ _))

/-- Two names of one text, of which the first is the one that is read from it. -/
example : QualifiedName.IsQuotable ⟨"a.b", "c"⟩ ∧ ¬ QualifiedName.IsQuotable ⟨"a", "b.c"⟩ := by
  decide

theorem QualifiedName.isQuotable_iff (q : QualifiedName) :
    q.IsQuotable ↔ parts? q.text.toList = some (q.space.toList, q.name.toList) ∧
      '\'' ∉ q.text.toList := by
  simp [IsQuotable, parts?_eq_some_iff, text, and_assoc]

namespace Enumeration

variable {e : Enumeration} {uri literal : String}

/-- A URI literal is accepted if the qualified name stands in front of the first quote, and the
literal between this quote and one at the end. -/
theorem ofUri_eq_ok_iff_parts :
    e.ofUri uri = .ok literal ↔
      QualifiedName.parts? (uri.toList.takeWhile (· ≠ '\'')) =
        some (e.name.space.toList, e.name.name.toList) ∧
      enclosed? ['\''] (uri.toList.dropWhile (· ≠ '\'')) = some literal.toList := by
  constructor
  · intro read
    unfold ofUri at read
    dsimp only at read
    split at read
    · cases read
    next space name parts =>
    split at read
    · cases read
    next same_space =>
    split at read
    · cases read
    next same_name =>
    split at read
    · next body enclosed =>
      cases read
      rw [parts, enclosed, ← not_not.1 same_space, ← not_not.1 same_name]
      simp only [String.toList_ofList, and_self]
    · cases read
  · rintro ⟨parts, enclosed⟩
    simp only [ofUri, parts, enclosed, String.ofList_toList, ne_eq, not_true_eq_false, if_false]

theorem ofUri_eq_ok_iff :
    e.ofUri uri = .ok literal ↔ e.name.IsQuotable ∧ uri = e.toUri literal := by
  have whole : uri = e.toUri literal ↔
      uri.toList = e.name.text.toList ++ '\'' :: (literal.toList ++ ['\'']) := by
    rw [← String.toList_inj, toUri]
    simp
  rw [ofUri_eq_ok_iff_parts, enclosed?_eq_some_iff, whole, QualifiedName.isQuotable_iff]
  constructor
  · rintro ⟨parts, body⟩
    have opening : uri.toList.takeWhile (· ≠ '\'') = e.name.text.toList := by
      rw [(QualifiedName.parts?_eq_some_iff.1 parts).1]
      simp [QualifiedName.text]
    have ⟨cut, plain⟩ := cut_iff.1 ⟨opening, body⟩
    rw [opening] at parts
    exact ⟨⟨parts, plain⟩, cut⟩
  · rintro ⟨⟨parts, plain⟩, cut⟩
    have ⟨opening, body⟩ := cut_iff.2 ⟨cut, plain⟩
    exact ⟨by rw [opening, parts], body⟩

theorem ofUri_error {reason : ConversionError} (failed : e.ofUri uri = .error reason) :
    reason.kind = .syntaxError := by
  unfold ofUri at failed
  dsimp only at failed
  split at failed
  · cases failed
    rfl
  split at failed
  · cases failed
    rfl
  split at failed
  · cases failed
    rfl
  split at failed <;> cases failed
  rfl

/-- A literal comes back from its form in a URI exactly if the name of the enumeration can be told
from its text. What is accepted is what is written, and everything else is refused for its text. -/
theorem uri_literals (e : Enumeration) :
    (∀ literal, e.ofUri (e.toUri literal) = .ok literal ↔ e.name.IsQuotable) ∧
    (¬ e.name.IsQuotable → ∀ literal, ∃ reason, e.ofUri (e.toUri literal) = .error reason) ∧
    (∀ uri literal, e.ofUri uri = .ok literal → uri = e.toUri literal) ∧
    ∀ uri, (e.name.IsQuotable → ∀ literal, uri ≠ e.toUri literal) →
      ∃ reason, e.ofUri uri = .error reason ∧ reason.kind = .syntaxError := by
  have refused {uri : String} (other : e.name.IsQuotable → ∀ literal, uri ≠ e.toUri literal) :
      ∃ reason, e.ofUri uri = .error reason ∧ reason.kind = .syntaxError := by
    cases outcome : e.ofUri uri with
    | ok literal =>
      obtain ⟨quotable, written⟩ := ofUri_eq_ok_iff.1 outcome
      exact absurd written (other quotable literal)
    | error reason => exact ⟨reason, rfl, ofUri_error outcome⟩
  refine ⟨fun literal => ?_, fun lost literal => ?_, fun uri literal read => ?_, @refused⟩
  · rw [ofUri_eq_ok_iff, and_iff_left rfl]
  · obtain ⟨reason, failed, -⟩ := refused fun quotable => absurd quotable lost
    exact ⟨reason, failed⟩
  · exact (ofUri_eq_ok_iff.1 read).2

end Enumeration

end EntityModel
