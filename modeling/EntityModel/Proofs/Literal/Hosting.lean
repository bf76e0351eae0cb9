import EntityModel.Proofs.Enumeration.Hosting
import EntityModel.Proofs.Literal.Facets

/-!
Literals in the host type that is asked for. What is read is of that host type, so its payload can
always be taken out, and the host type that a type prefers is never refused as such. What is refused
names the host type that was asked for, and whether the type supports it does not hang on the
literal; only decimal literals beyond decimals name decimals instead.
-/

set_option autoImplicit false

namespace EntityModel

namespace Value

theorem ofPayload_payload (value : Value) : ofPayload value.hostType value.payload = value := by
  cases value <;> rfl

/-- The payload that is taken out of a value is the one that the value is made of. -/
theorem extract?_eq_some_iff {host : HostType} {value : Value} {payload : host.Carrier} :
    value.extract? host = some payload ↔ value = ofPayload host payload := by
  constructor
  · intro taken
    obtain ⟨same, taken⟩ := Option.dite_none_right_eq_some.1 taken
    subst same
    rw [← Option.some.inj taken]
    exact value.ofPayload_payload.symm
  · rintro rfl
    cases host <;> exact dif_pos rfl

theorem exists_extract? {host : HostType} {value : Value} (held : value.hostType = host) :
    ∃ payload, value.extract? host = some payload :=
  ⟨_, dif_pos held⟩

end Value

/-- The host type that an error is about. -/
def ConversionError.target? : ConversionError → Option HostType
  | unsupportedTarget _ target | doesNotFit _ _ target => some target
  | _ => none

namespace ScalarType

/-- Literals of a type that are decimals beyond decimals. -/
def Exceeds : ScalarType → String → Prop
  | primitive kind, literal => kind.Exceeds literal.toList
  | enumeration _, _ => False

variable {type : ScalarType} {facets : Facets} {literal : String} {target : HostType}

section Valid

/-- A type supports the host type that it prefers. -/
theorem supports_hostType (type : ScalarType) : type.Supports type.hostType := by
  cases type with
  | primitive kind =>
    cases kind with
    | date | duration => exact .inl rfl
    | decimal | floating | integer => trivial
    | _ => rfl
  | enumeration e => rfl

/-- A valid literal is answered for the host type that is asked for. -/
theorem read_answers (valid : type.validates facets (some literal) = true)
    (within : ¬ type.Exceeds literal) (target : HostType) :
    ∃ answer, type.read facets target (some literal) = answer.map some ∧
      AnswersFor type.name (type.Supports target) target answer := by
  cases type with
  | primitive kind =>
    obtain ⟨spelling, spelled, reads⟩ := exists_spelling_of_valid valid
    exact ⟨_, reads target, PrimitiveKind.spellingValue_answers spelled within target⟩
  | enumeration e =>
    obtain ⟨value, parsed⟩ := Enumeration.validates_iff_parse.1 valid
    exact ⟨_, Enumeration.read_of_parse parsed, e.hostValue_answers value target⟩

theorem read_of_exceeds (valid : type.validates facets (some literal) = true)
    (exceeds : type.Exceeds literal) (target : HostType) :
    type.read facets target (some literal) = .error (.doesNotFit type.name literal .decimal) := by
  cases type with
  | primitive kind =>
    obtain ⟨spelling, spelled, reads⟩ := exists_spelling_of_valid valid
    rw [reads, PrimitiveKind.spellingValue_of_exceeds spelled exceeds]
    rfl
  | enumeration e => exact exceeds.elim

end Valid

section Reading

variable {given : Option String}

/-- All that reading can come to: something is wrong that has nothing to do with the host type, there
is no literal, a decimal literal is beyond decimals, or there is an answer for the host type. -/
theorem read_outcomes (type : ScalarType) (facets : Facets) (target : HostType)
    (given : Option String) :
    (∃ reason, reason.BlamesLiteral ∧ type.read facets target given = .error reason) ∨
    type.read facets target given = .ok none ∨
    (∃ literal, type.read facets target given = .error (.doesNotFit type.name literal .decimal)) ∨
    ∃ answer, AnswersFor type.name (type.Supports target) target answer ∧
      type.read facets target given = answer.map some := by
  cases valid : type.validates facets given with
  | false =>
    obtain ⟨reason, refused, blamed⟩ := read_of_invalid valid
    exact .inl ⟨reason, blamed, refused⟩
  | true =>
    -- What is valid fails for the sake of a host type only.
    cases given with
    | none => exact .inr (.inl (if_pos valid))
    | some literal =>
      by_cases exceeds : type.Exceeds literal
      · exact .inr (.inr (.inl ⟨literal, read_of_exceeds valid exceeds target⟩))
      · obtain ⟨answer, reads, answers⟩ := read_answers valid exceeds target
        exact .inr (.inr (.inr ⟨answer, answers, reads⟩))

/-- What is read is of the host type that is asked for. -/
theorem hostType_of_read {value : Value}
    (done : type.read facets target given = .ok (some value)) : value.hostType = target := by
  rcases type.read_outcomes facets target given with
    ⟨reason, -, refused⟩ | absent | ⟨literal, beyond⟩ | ⟨answer, answers, reads⟩
  · cases done.symm.trans refused
  · cases done.symm.trans absent
  · cases done.symm.trans beyond
  · rw [reads, map_eq_ok_iff] at done
    obtain ⟨held, rfl, same⟩ := done
    cases same
    cases answers with
    | held _ asked => exact asked

/-- The host type that a type prefers is never refused as such. -/
theorem read_hostType_ne (type : ScalarType) (facets : Facets) (given : Option String)
    (name : QualifiedName) (host : HostType) :
    type.read facets type.hostType given ≠ .error (.unsupportedTarget name host) := by
  intro refused
  rcases type.read_outcomes facets type.hostType given with
    ⟨reason, blamed, failed⟩ | absent | ⟨literal, beyond⟩ | ⟨answer, answers, reads⟩
  · cases refused.symm.trans failed
    simp [ConversionError.BlamesLiteral, ConversionError.kind] at blamed
  · cases refused.symm.trans absent
  · cases refused.symm.trans beyond
  · rw [reads, map_eq_error_iff] at refused
    subst refused
    cases answers with
    | foreign unsupported => exact unsupported type.supports_hostType

/-- The payload of every value that is read can be taken out. -/
theorem read_eq_map_readPayload (type : ScalarType) (facets : Facets) (target : HostType)
    (given : Option String) :
    type.read facets target given =
      (type.readPayload facets target given).map (Option.map (Value.ofPayload target)) := by
  rw [readPayload]
  cases outcome : type.read facets target given with
  | error reason => rfl
  | ok value =>
    cases value with
    | none => rfl
    | some value =>
      obtain ⟨payload, taken⟩ := value.exists_extract? (hostType_of_read outcome)
      dsimp only
      rw [taken, Value.extract?_eq_some_iff.1 taken]
      rfl

end Reading

/-- A value is read in the host type that is asked for. Reading a payload gives what this value is
made of and fails for the same reasons. The host type that a type prefers is never refused as such,
whatever the literal is. -/
theorem held_as_asked (type : ScalarType) (facets : Facets) (target : HostType)
    (literal : Option String) :
    (∀ value, type.read facets target literal = .ok (some value) → value.hostType = target) ∧
    type.read facets target literal =
      (type.readPayload facets target literal).map (Option.map (Value.ofPayload target)) ∧
    ∀ name host, type.read facets type.hostType literal ≠ .error (.unsupportedTarget name host) :=
  ⟨fun _ => hostType_of_read, type.read_eq_map_readPayload facets target literal,
    type.read_hostType_ne facets literal⟩

/-- The literal has one place more than decimals have. -/
def tinyDecimal : String := "0.00000000000000000000000000001"

/-- A valid literal that is refused is refused for the host type that is asked for. Whether the type
supports this host type is the same for all its literals, and a value is said not to fit a host type
that is supported only. Decimal literals beyond decimals are refused for decimals in any case. -/
theorem refused_for_target (target : HostType)
    (valid : type.validates facets (some literal) = true) :
    (¬ type.Exceeds literal →
      (∀ reason, type.read facets target (some literal) = .error reason →
        reason.target? = some target) ∧
      ((∃ name host, type.read facets target (some literal) =
        .error (.unsupportedTarget name host)) ↔ ¬ type.Supports target) ∧
      ((∃ name text host, type.read facets target (some literal) =
        .error (.doesNotFit name text host)) → type.Supports target)) ∧
    (type.Exceeds literal →
      type.read facets target (some literal) =
        .error (.doesNotFit type.name literal .decimal)) := by
  refine ⟨fun within => ?_, fun exceeds => read_of_exceeds valid exceeds target⟩
  obtain ⟨answer, reads, answers⟩ := read_answers valid within target
  simp only [reads, map_eq_error_iff]
  cases answers with
  | held supported => simp [supported]
  | misfit text supported => simp [supported, ConversionError.target?]
  | foreign unsupported => simp [unsupported, ConversionError.target?]

/-- One literal is refused for texts, the other one for decimals. -/
theorem refused_for_target_tiny :
    ¬ (primitive .decimal).Exceeds "1.5" ∧
    (∃ name host, (primitive .decimal).read .empty .string (some "1.5") =
      .error (.unsupportedTarget name host)) ∧
    (primitive .decimal).Exceeds tinyDecimal ∧
    (primitive .decimal).read .empty .string (some tinyDecimal) =
      .error (.doesNotFit PrimitiveKind.decimal.qualifiedName tinyDecimal .decimal) := by
  have short : PrimitiveKind.decimal.spelling? "1.5" = some ⟨false, ['1'], ['5'], false, []⟩ := by
    rfl
  have within : ¬ (primitive .decimal).Exceeds "1.5" := fun exceeds => by
    cases (PrimitiveKind.exceeds_decimal_iff short).1 exceeds
  have tiny : PrimitiveKind.decimal.spelling? tinyDecimal =
      some ⟨false, ['0'], List.replicate 28 '0' ++ ['1'], false, []⟩ := by rfl
  have exceeds : (primitive .decimal).Exceeds tinyDecimal :=
    (PrimitiveKind.exceeds_decimal_iff tiny).2 (by rfl)
  have unsupported : ¬ (primitive .decimal).Supports .string := id
  have answers := (refused_for_target .string (validates_empty_iff.2 ⟨_, short⟩)).1 within
  exact ⟨within, answers.2.1.2 unsupported, exceeds,
    (refused_for_target .string (validates_empty_iff.2 ⟨_, tiny⟩)).2 exceeds⟩

theorem tiny_decimal_refused_for_decimals :
    (¬ ∀ (type : ScalarType) (facets : Facets) (literal : String) (target : HostType)
        (reason : ConversionError), type.validates facets (some literal) = true →
        type.read facets target (some literal) = .error reason → reason.target? = some target) ∧
    ¬ ∀ (type : ScalarType) (target : HostType) (facets facets' : Facets)
        (literal literal' : String), type.validates facets (some literal) = true →
        type.validates facets' (some literal') = true →
        ((∃ name host, type.read facets target (some literal) =
          .error (.unsupportedTarget name host)) ↔
        ∃ name host, type.read facets' target (some literal') =
          .error (.unsupportedTarget name host)) := by
  have valid : (primitive .decimal).validates .empty (some tinyDecimal) = true := by rfl
  have refused : (primitive .decimal).read .empty .string (some tinyDecimal) =
      .error (.doesNotFit PrimitiveKind.decimal.qualifiedName tinyDecimal .decimal) := by rfl
  constructor
  · intro told
    cases told _ _ _ _ _ valid refused
  · intro uniform
    have unit : (primitive .decimal).read .empty .string (some "1") =
        .error (.unsupportedTarget PrimitiveKind.decimal.qualifiedName .string) := by rfl
    obtain ⟨name, host, other⟩ :=
      (uniform _ .string .empty .empty "1" tinyDecimal (by rfl) valid).1 ⟨_, _, unit⟩
    cases refused.symm.trans other

end ScalarType

end EntityModel
