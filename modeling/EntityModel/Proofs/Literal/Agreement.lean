import EntityModel.Proofs.Literal.Target

/-!
Validation and reading agree. What the check of a literal lets through is never refused later for
its text, its facets or its content, only because the host type cannot take the value; so a literal
is invalid exactly if reading it fails for one of those reasons.
-/

set_option autoImplicit false

namespace EntityModel

/-- The literals of a width are the texts of the whole numbers in its range. -/
theorem SizedInt.read?_eq_some_iff {width : IntegerWidth} {text : List Char}
    {n : SizedInt width} : read? width text = some n ↔ Text.IntegerText n.val text := by
  rw [read?, Option.bind_eq_some_iff, ← Text.readInteger?_eq_some_iff]
  constructor
  · rintro ⟨i, found, fits⟩
    obtain ⟨_, same⟩ := Option.dite_none_right_eq_some.1 fits
    rw [found, ← Option.some.inj same]
  · intro found
    exact ⟨n.val, found, dif_pos n.contains⟩

section Limits

variable {limit : Option Nat} {count : Nat} {excess : Nat → ConversionError}

theorem checkLimit_eq_ok_iff :
    checkLimit limit count excess = .ok () ↔ ∀ most ∈ limit, count ≤ most := by
  cases limit <;> simp [checkLimit]

theorem checkLimit_error {reason : ConversionError}
    (failed : checkLimit limit count excess = .error reason) :
    ∃ most ∈ limit, most < count ∧ excess most = reason := by
  unfold checkLimit at failed
  split at failed
  next most =>
    obtain ⟨exceeded, same⟩ := ite_eq_iff.1 failed |>.resolve_right fun ⟨_, other⟩ => nomatch other
    exact ⟨most, rfl, exceeded, Except.error.inj same⟩
  next => cases failed

end Limits

namespace PrimitiveKind

section Checking

variable {kind : PrimitiveKind} {facets : Facets} {reason : ConversionError}

theorem checkLength_error {length : Nat}
    (failed : kind.checkLength facets length = .error reason) :
    reason.kind = .facetViolation := by
  obtain ⟨max, -, -, rfl⟩ := checkLimit_error failed
  rfl

theorem checkPrecision_error {digits : Nat}
    (failed : kind.checkPrecision facets digits = .error reason) :
    reason.kind = .facetViolation := by
  obtain ⟨precision, -, -, rfl⟩ := checkLimit_error failed
  rfl

theorem checkScale_error {digits : Nat} (failed : kind.checkScale facets digits = .error reason) :
    reason.kind = .facetViolation := by
  obtain ⟨scale, -, -, rfl⟩ := checkLimit_error failed
  rfl

theorem checkUnicode_error {text : String}
    (failed : kind.checkUnicode facets text = .error reason) : reason.kind = .facetViolation := by
  unfold checkUnicode at failed
  split at failed <;> cases failed
  rfl

theorem checkFacets_error {spelling : kind.Spelling}
    (failed : kind.checkFacets facets spelling = .error reason) :
    reason.kind = .facetViolation := by
  cases kind with
  | binary => exact checkLength_error failed
  | dateTimeOffset => exact checkPrecision_error failed
  | decimal =>
    rcases bind_eq_error_iff.1 failed with failed | ⟨-, -, failed⟩
    · exact checkPrecision_error failed
    · exact checkScale_error failed
  | duration => exact checkPrecision_error failed
  | string =>
    rcases bind_eq_error_iff.1 failed with failed | ⟨-, -, failed⟩
    · exact checkLength_error failed
    · exact checkUnicode_error failed
  | timeOfDay => exact checkPrecision_error failed
  | boolean | date | floating | guid | integer => cases failed

theorem check_error {literal : String} (failed : kind.check facets literal = .error reason) :
    reason.kind = .syntaxError ∨ reason.kind = .facetViolation := by
  unfold check at failed
  split at failed
  · cases failed
    exact .inl rfl
  · exact .inr (checkFacets_error failed)

/-- A literal passes the check if the grammar reads it and what it says keeps to the facets. -/
theorem check_eq_ok_iff {literal : String} :
    kind.check facets literal = .ok () ↔
      ∃ spelling, kind.spelling? literal = some spelling ∧
        kind.checkFacets facets spelling = .ok () := by
  unfold check
  cases kind.spelling? literal <;> simp

end Checking

section Conversion

variable {kind : PrimitiveKind} {literal : String} {target : HostType} {reason : ConversionError}

/-- What the grammar has read is refused only because of the host type. -/
theorem spellingValue_error {spelling : kind.Spelling}
    (read : kind.spelling? literal = some spelling)
    (failed : kind.spellingValue literal spelling target = .error reason) :
    reason.kind = .typeMismatch := by
  by_cases exceeds : kind.Exceeds literal.toList
  · rw [spellingValue_of_exceeds read exceeds target] at failed
    cases failed
    rfl
  · have answers := spellingValue_answers read exceeds target
    rw [failed] at answers
    exact answers.kind_of_error

/-- After the check a literal is read, or the host type cannot take its value. -/
theorem valueOf_error {facets : Facets} (checked : kind.check facets literal = .ok ())
    (failed : kind.valueOf literal target = .error reason) : reason.kind = .typeMismatch := by
  obtain ⟨spelling, read, -⟩ := check_eq_ok_iff.1 checked
  rw [valueOf, read] at failed
  exact spellingValue_error read failed

end Conversion

end PrimitiveKind

namespace Enumeration

variable {e : Enumeration} {reason : ConversionError}

theorem combine_error {tokens : List String} (failed : e.combine tokens = .error reason) :
    reason.kind = .content := by
  induction tokens with
  | nil => cases failed
  | cons token rest ih =>
    rw [combine] at failed
    split at failed
    · cases failed
      rfl
    · exact ih (map_eq_error_iff.1 failed)

theorem parse_error {literal : String} (failed : e.parse literal = .error reason) :
    reason.kind = .content := by
  unfold parse at failed
  dsimp only at failed
  split at failed
  · cases failed
    rfl
  · split at failed
    · cases failed
      rfl
    · exact combine_error failed

theorem hostValue_error {value : Int64} {target : HostType}
    (failed : e.hostValue value target = .error reason) : reason.kind = .typeMismatch := by
  have answers := e.hostValue_answers value target
  rw [failed] at answers
  exact answers.kind_of_error

end Enumeration

/-- An error for which the literal itself is to blame, its text, its facets or its content. -/
def ConversionError.BlamesLiteral (reason : ConversionError) : Prop :=
  reason.kind = .syntaxError ∨ reason.kind = .facetViolation ∨ reason.kind = .content

namespace ScalarType

variable {type : ScalarType} {facets : Facets} {target : HostType} {literal : Option String}

theorem read_of_valid (target : HostType) (valid : type.validates facets literal = true) :
    (∃ value, type.read facets target literal = .ok value) ∨
      ∃ reason, type.read facets target literal = .error reason ∧ reason.kind = .typeMismatch := by
  cases outcome : type.read facets target literal with
  | ok value => exact .inl ⟨value, rfl⟩
  | error reason =>
    refine .inr ⟨reason, rfl, ?_⟩
    cases literal with
    | none =>
      simp only [validates] at valid
      simp [read, ofNull, valid] at outcome
    | some literal =>
      cases type with
      | primitive kind =>
        simp only [validates, PrimitiveKind.validates] at valid
        split at valid
        · next checked =>
          have failed := map_eq_error_iff.1 outcome
          simp only [PrimitiveKind.read, checked] at failed
          exact PrimitiveKind.valueOf_error checked failed
        · cases valid
      | enumeration e =>
        simp only [validates, Enumeration.validates] at valid
        split at valid
        · next parsed =>
          have failed := map_eq_error_iff.1 outcome
          simp only [Enumeration.read, parsed] at failed
          exact Enumeration.hostValue_error failed
        · cases valid

theorem read_of_invalid (invalid : type.validates facets literal = false) :
    ∃ reason, type.read facets target literal = .error reason ∧ reason.BlamesLiteral := by
  cases literal with
  | none =>
    simp only [validates] at invalid
    refine ⟨.nullForbidden type.name, ?_, .inr (.inl rfl)⟩
    simp [read, ofNull, invalid]
  | some literal =>
    cases type with
    | primitive kind =>
      simp only [validates, PrimitiveKind.validates] at invalid
      split at invalid
      · cases invalid
      · next reason failed =>
        refine ⟨reason, ?_, ?_⟩
        · simp [read, PrimitiveKind.read, failed, bind, Except.bind, Except.map]
        · rcases PrimitiveKind.check_error failed with text | facet
          · exact .inl text
          · exact .inr (.inl facet)
    | enumeration e =>
      simp only [validates, Enumeration.validates] at invalid
      split at invalid
      · cases invalid
      · next reason failed =>
        refine ⟨reason, ?_, .inr (.inr (Enumeration.parse_error failed))⟩
        simp [read, Enumeration.read, failed, Except.map]

/-- A literal is invalid exactly if reading it fails and the literal is to blame. Reading a valid
one gives a value unless the host type cannot take it, and null is read as validation says. -/
theorem validates_iff_read (type : ScalarType) (facets : Facets) (target : HostType)
    (literal : Option String) :
    (type.validates facets literal = false ↔
      ∃ reason, type.read facets target literal = .error reason ∧ reason.BlamesLiteral) ∧
    (type.validates facets literal = true →
      (∃ value, type.read facets target literal = .ok value) ∨
        ∃ reason, type.read facets target literal = .error reason ∧
          reason.kind = .typeMismatch) ∧
    type.read facets target none =
      if type.validates facets none then .ok none else .error (.nullForbidden type.name) := by
  refine ⟨⟨read_of_invalid, ?_⟩, read_of_valid target, rfl⟩
  rintro ⟨reason, failed, blamed⟩
  rw [← Bool.not_eq_true]
  intro valid
  rcases read_of_valid target valid with ⟨value, done⟩ | ⟨other, refused, mismatch⟩
  · rw [failed] at done
    cases done
  · rw [failed] at refused
    cases refused
    rcases blamed with text | facet | content
    · rw [mismatch] at text
      cases text
    · rw [mismatch] at facet
      cases facet
    · rw [mismatch] at content
      cases content

end ScalarType

end EntityModel
