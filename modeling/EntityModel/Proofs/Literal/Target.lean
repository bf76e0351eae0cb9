import EntityModel.Literal.Scalar
import EntityModel.Proofs.Literal.Moment
import EntityModel.Proofs.Number.Decimal
import EntityModel.Proofs.Number.Notation
import EntityModel.Proofs.Octets
import EntityModel.Proofs.Outcome

/-!
Conversions answer for the host type that is asked for. A type supports a host type or it does not,
whatever the literal is. In a host type that is supported a literal has a value or does not fit,
and any other host type is refused as such. Decimal literals that are no decimals come to neither:
they do not fit decimals, whatever host type is asked for.
-/

set_option autoImplicit false

namespace EntityModel

open EntityModel.Text

/-- The host types for numbers. -/
def HostType.IsNumeric : HostType → Prop
  | integer _ | decimal | floating _ => True
  | _ => False

/-- The host types that a kind supports: those for numbers if its literals are numbers, else the one
that it prefers. A date is also an instant, and a duration is also a number of seconds. -/
def PrimitiveKind.Supports : PrimitiveKind → HostType → Prop
  | integer _, target | decimal, target | floating _, target => target.IsNumeric
  | date, target => target = .date ∨ target = .dateTimeOffset
  | duration, target => target = .duration ∨ target = .decimal
  | kind, target => target = kind.hostType

def ScalarType.Supports : ScalarType → HostType → Prop
  | primitive kind, target => kind.Supports target
  | enumeration _, target => target.isInteger = true

/-- What a literal comes to in the host type that is asked for. -/
inductive AnswersFor (type : QualifiedName) (supported : Prop) (target : HostType) :
    Except ConversionError Value → Prop where
  | held {value : Value} : supported → value.hostType = target →
      AnswersFor type supported target (.ok value)
  | misfit (text : String) : supported →
      AnswersFor type supported target (.error (.doesNotFit type text target))
  | foreign : ¬ supported →
      AnswersFor type supported target (.error (.unsupportedTarget type target))

/-- If anything is wrong, then a value does not fit the host type. -/
def MayMisfit {α : Type} (type : QualifiedName) (target : HostType)
    (outcome : Except ConversionError α) : Prop :=
  ∀ reason, outcome = .error reason → ∃ text, reason = .doesNotFit type text target

/-- Decimal literals beyond decimals: the digits, read without a point, make no coefficient, or the
last of them is below the last place. -/
def PrimitiveKind.Exceeds : PrimitiveKind → List Char → Prop
  | decimal, text =>
    ∃ n : Numeral, n.WrittenAs text ∧ (2 ^ 96 ≤ n.coefficient ∨ 28 < n.fraction.length)
  | _, _ => False

section Misfits

variable {α β : Type} {type : QualifiedName} {target : HostType}
  {outcome : Except ConversionError α}

theorem MayMisfit.map (may : MayMisfit type target outcome) (f : α → β) :
    MayMisfit type target (outcome.map f) :=
  fun reason failed => may reason (map_eq_error_iff.1 failed)

theorem MayMisfit.bind (may : MayMisfit type target outcome) {f : α → Except ConversionError β}
    (next : ∀ a, outcome = .ok a → MayMisfit type target (f a)) :
    MayMisfit type target (outcome >>= f) := by
  intro reason failed
  rcases bind_eq_error_iff.1 failed with failed | ⟨a, done, failed⟩
  · exact may reason failed
  · exact next a done reason failed

theorem PrimitiveKind.orMisfit_eq_ok {kind : PrimitiveKind} {literal : String} {found : Option α}
    {a : α} (done : kind.orMisfit literal target found = .ok a) : found = some a := by
  cases found with
  | none => cases done
  | some b =>
    cases done
    rfl

theorem mayMisfit_orMisfit (kind : PrimitiveKind) (text : String) (target : HostType)
    (found : Option α) : MayMisfit kind.qualifiedName target (kind.orMisfit text target found) := by
  intro reason failed
  cases found with
  | none =>
    cases failed
    exact ⟨text, rfl⟩
  | some a => cases failed

end Misfits

section Answers

variable {type : QualifiedName} {supported : Prop} {target : HostType}
  {outcome : Except ConversionError Value}

theorem AnswersFor.intro (yes : supported) (refused : MayMisfit type target outcome)
    (held : ∀ value, outcome = .ok value → value.hostType = target) :
    AnswersFor type supported target outcome := by
  cases outcome with
  | ok value => exact .held yes (held value rfl)
  | error reason =>
    obtain ⟨text, rfl⟩ := refused reason rfl
    exact .misfit text yes

theorem AnswersFor.map {α : Type} {done : Except ConversionError α} (yes : supported)
    (refused : MayMisfit type target done) {f : α → Value} (held : ∀ a, (f a).hostType = target) :
    AnswersFor type supported target (done.map f) := by
  refine .intro yes (refused.map f) fun value converted => ?_
  obtain ⟨a, -, rfl⟩ := map_eq_ok_iff.1 converted
  exact held a

theorem AnswersFor.orMisfit {kind : PrimitiveKind} {text : String} {found : Option Value}
    (yes : supported) (held : ∀ value, found = some value → value.hostType = target) :
    AnswersFor kind.qualifiedName supported target (kind.orMisfit text target found) := by
  cases found with
  | none => exact .misfit text yes
  | some value => exact .held yes (held value rfl)

/-- Whatever is answered is an error about the host type, if it is an error. -/
theorem AnswersFor.kind_of_error {reason : ConversionError}
    (answers : AnswersFor type supported target (.error reason)) : reason.kind = .typeMismatch := by
  cases answers <;> rfl

end Answers

theorem Value.hostType_of_ofInt? {n : Int} {target : HostType} {value : Value}
    (built : Value.ofInt? n target = some value) : value.hostType = target := by
  cases target with
  | integer width =>
    obtain ⟨held, -, rfl⟩ := Option.map_eq_some_iff.1 built
    rfl
  | _ => cases built

/-- The clock of an instant shows a time that exists. -/
theorem InstantSpelling.read?_time {text : List Char} {instant : InstantSpelling}
    (read : read? text = some instant) :
    instant.time.hour ≤ 23 ∧ instant.time.minute ≤ 59 ∧ instant.time.second ≤ 59 := by
  cases read?_eq_some_iff.1 read with
  | intro _ time _ => exact time.range

namespace PrimitiveKind

variable {kind : PrimitiveKind} {literal : String}

section Numbers

theorem integerValue_answers (kind : PrimitiveKind) {width : IntegerWidth} (n : SizedInt width)
    (target : HostType) :
    AnswersFor kind.qualifiedName target.IsNumeric target (kind.integerValue n target) := by
  cases target with
  | integer other => exact .orMisfit trivial fun _ built => Value.hostType_of_ofInt? built
  | decimal => exact .held trivial rfl
  | floating format =>
    rw [integerValue]
    split
    · exact .held trivial rfl
    · exact .misfit _ trivial
  | _ => exact .foreign id

theorem decimalValue_answers (kind : PrimitiveKind) (d : Decimal) (target : HostType) :
    AnswersFor kind.qualifiedName target.IsNumeric target (kind.decimalValue d target) := by
  cases target with
  | integer other =>
    refine .orMisfit trivial fun value built => ?_
    obtain ⟨n, -, built⟩ := Option.bind_eq_some_iff.1 built
    exact Value.hostType_of_ofInt? built
  | decimal => exact .held trivial rfl
  | floating format =>
    refine .orMisfit trivial fun value built => ?_
    obtain ⟨x, -, rfl⟩ := Option.map_eq_some_iff.1 built
    rfl
  | _ => exact .foreign id

theorem floatingLiteralValue_answers (format : FloatFormat) (literal : String)
    (spelling : FloatingSpelling) (target : HostType) :
    AnswersFor (floating format).qualifiedName target.IsNumeric target
      (floatingLiteralValue format literal spelling target) := by
  cases target with
  | floating other =>
    cases other with
    | double => exact .held trivial rfl
    | single =>
      rw [floatingLiteralValue]
      split
      · exact .held trivial rfl
      · exact .misfit _ trivial
  | integer | decimal =>
    rw [floatingLiteralValue]
    split
    · exact decimalValue_answers _ _ _
    · exact .misfit _ trivial
  | _ => exact .foreign id

end Numbers

section Moments

theorem mayMisfit_dateOf (kind : PrimitiveKind) (literal : String) (civil : Calendar.CivilDate)
    (target : HostType) : MayMisfit kind.qualifiedName target (kind.dateOf literal civil target) :=
  mayMisfit_orMisfit kind literal target _

/-- A clock time that the grammar has read is a time of day, so only its fraction can be refused. -/
theorem mayMisfit_timeOf {time : Calendar.ClockTime} (hour_le : time.hour ≤ 23)
    (minute_le : time.minute ≤ 59) (second_le : time.second ≤ 59) (target : HostType) :
    MayMisfit kind.qualifiedName target (kind.timeOf literal time target) := by
  refine (mayMisfit_orMisfit kind literal target _).bind fun nanos found reason failed => ?_
  have fraction := orMisfit_eq_ok found
  obtain ⟨result, built, -⟩ := TimeOfDay.exists_ofClock? hour_le minute_le second_le
    (Calendar.nanosOfFraction?_lt fraction)
  rw [built] at failed
  cases failed

theorem dateLiteralValue_answers (literal : String) (civil : Calendar.CivilDate)
    (target : HostType) :
    AnswersFor date.qualifiedName (date.Supports target) target
      (dateLiteralValue literal civil target) := by
  have day (target : HostType) := mayMisfit_dateOf date literal civil target
  cases target with
  | date => exact .map (.inl rfl) (day _) fun _ => rfl
  | dateTimeOffset =>
    -- The day may be out of range, and so may its first instant.
    refine .intro (.inr rfl) ((day _).bind fun _ _ => (mayMisfit_orMisfit _ _ _ _).map _) ?_
    intro value converted
    obtain ⟨_, -, converted⟩ := bind_eq_ok_iff.1 converted
    obtain ⟨_, -, rfl⟩ := map_eq_ok_iff.1 converted
    rfl
  | _ => exact .foreign (by simp [Supports])

theorem timeLiteralValue_answers {text : List Char} {time : Calendar.ClockTime}
    (read : readTime? text = some time) (target : HostType) :
    AnswersFor timeOfDay.qualifiedName (timeOfDay.Supports target) target
      (timeLiteralValue literal time target) := by
  obtain ⟨hour_le, minute_le, second_le⟩ := (readTime?_eq_some_iff.1 read).range
  cases target with
  | timeOfDay => exact .map rfl (mayMisfit_timeOf hour_le minute_le second_le _) fun _ => rfl
  | _ => exact .foreign (by simp [Supports, hostType])

theorem instantLiteralValue_answers {text : List Char} {instant : InstantSpelling}
    (read : InstantSpelling.read? text = some instant) (target : HostType) :
    AnswersFor dateTimeOffset.qualifiedName (dateTimeOffset.Supports target) target
      (instantLiteralValue literal instant target) := by
  obtain ⟨hour_le, minute_le, second_le⟩ := InstantSpelling.read?_time read
  cases target with
  | dateTimeOffset =>
    refine .intro rfl ((mayMisfit_dateOf _ _ _ _).bind fun _ _ =>
      (mayMisfit_timeOf hour_le minute_le second_le _).bind fun _ _ =>
        (mayMisfit_orMisfit _ _ _ _).map _) ?_
    intro value converted
    obtain ⟨_, -, converted⟩ := bind_eq_ok_iff.1 converted
    obtain ⟨_, -, converted⟩ := bind_eq_ok_iff.1 converted
    obtain ⟨_, -, rfl⟩ := map_eq_ok_iff.1 converted
    rfl
  | _ => exact .foreign (by simp [Supports, hostType])

theorem durationLiteralValue_answers (literal : String) (spelling : DurationSpelling)
    (target : HostType) :
    AnswersFor duration.qualifiedName (duration.Supports target) target
      (durationLiteralValue literal spelling target) := by
  cases target with
  | duration =>
    refine .orMisfit (.inl rfl) fun value built => ?_
    obtain ⟨_, -, rfl⟩ := Option.map_eq_some_iff.1 built
    rfl
  | decimal =>
    refine .orMisfit (.inr rfl) fun value built => ?_
    obtain ⟨_, -, rfl⟩ := Option.map_eq_some_iff.1 built
    rfl
  | _ => exact .foreign (by simp [Supports])

end Moments

theorem guidLiteralValue_answers {text : List Char} (formed : Guid.hasForm text = true)
    (target : HostType) :
    AnswersFor guid.qualifiedName (guid.Supports target) target
      (guidLiteralValue literal text target) := by
  cases target with
  | uuid =>
    obtain ⟨id, found⟩ := Guid.exists_read? formed
    rw [guidLiteralValue, found]
    exact .held rfl rfl
  | _ => exact .foreign (by simp [Supports, hostType])

section Decimals

variable {numeral : Numeral}

theorem decimalLiteralValue_answers {d : Decimal} (spelled : Decimal.ofNumeral? numeral = some d)
    (target : HostType) :
    AnswersFor decimal.qualifiedName (decimal.Supports target) target
      (decimalLiteralValue literal numeral target) := by
  rw [decimalLiteralValue, spelled]
  exact decimalValue_answers _ _ _

theorem decimalLiteralValue_of_none (unspelled : Decimal.ofNumeral? numeral = none)
    (target : HostType) :
    decimalLiteralValue literal numeral target =
      .error (.doesNotFit decimal.qualifiedName literal .decimal) := by
  rw [decimalLiteralValue, unspelled]
  rfl

/-- The numeral of a decimal literal has no exponent, so what it spells is told by its digits. -/
theorem exceeds_decimal_iff (read : decimal.spelling? literal = some numeral) :
    decimal.Exceeds literal.toList ↔ Decimal.ofNumeral? numeral = none := by
  obtain ⟨written, follows⟩ := Numeral.read?_eq_some_iff.1 read
  rw [Decimal.ofNumeral?_eq_none_iff (follows.exponent_eq_zero rfl)]
  constructor
  · rintro ⟨other, another, exceeds⟩
    rwa [written.unique another]
  · exact fun exceeds => ⟨numeral, written, exceeds⟩

end Decimals

/-- A literal that the grammar has read is answered for the host type that is asked for. -/
theorem spellingValue_answers {spelling : kind.Spelling}
    (read : kind.spelling? literal = some spelling) (within : ¬ kind.Exceeds literal.toList)
    (target : HostType) :
    AnswersFor kind.qualifiedName (kind.Supports target) target
      (kind.spellingValue literal spelling target) := by
  cases kind with
  | integer width => exact integerValue_answers _ _ _
  | floating format => exact floatingLiteralValue_answers format literal spelling target
  | decimal =>
    -- The decimal is made before the host type is looked at, so it has to exist for every answer.
    rw [exceeds_decimal_iff read, ← Ne, Option.ne_none_iff_exists'] at within
    obtain ⟨d, spelled⟩ := within
    exact decimalLiteralValue_answers spelled target
  | date => exact dateLiteralValue_answers literal spelling target
  | timeOfDay => exact timeLiteralValue_answers read target
  | dateTimeOffset => exact instantLiteralValue_answers read target
  | duration => exact durationLiteralValue_answers literal spelling target
  | guid =>
    -- The form is checked apart from the reader of the value, which might refuse once more.
    obtain ⟨formed, same⟩ := Option.ite_none_right_eq_some.1 read
    cases same
    exact guidLiteralValue_answers formed target
  | binary | boolean | string =>
    cases target <;> first | exact .held rfl rfl | exact .foreign (by simp [Supports, hostType])

/-- A decimal literal beyond decimals is refused before the host type is looked at. -/
theorem spellingValue_of_exceeds {spelling : kind.Spelling}
    (read : kind.spelling? literal = some spelling) (exceeds : kind.Exceeds literal.toList)
    (target : HostType) :
    kind.spellingValue literal spelling target =
      .error (.doesNotFit kind.qualifiedName literal .decimal) := by
  cases kind with
  | decimal =>
    exact decimalLiteralValue_of_none ((exceeds_decimal_iff read).1 exceeds) target
  | _ => exact exceeds.elim

end PrimitiveKind

theorem Enumeration.hostValue_answers (e : Enumeration) (value : Int64) (target : HostType) :
    AnswersFor e.name (target.isInteger = true) target (e.hostValue value target) := by
  rw [hostValue]
  by_cases supported : target.isInteger = true
  · rw [if_neg (not_not_intro supported)]
    split
    · next built => exact .held supported (Value.hostType_of_ofInt? built)
    · exact .misfit _ supported
  · rw [if_pos supported]
    exact .foreign supported

end EntityModel
