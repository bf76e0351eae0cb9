import EntityModel.Proofs.Literal.DurationNotation
import EntityModel.Proofs.Literal.RoundTrip
import EntityModel.Proofs.Number.Exactness

/-!
Integers and decimals that are read from a literal are the number that the literal denotes. What a
literal denotes is said by its notation alone; it does not depend on the value that is asked for, so
all values of one literal are the same number.
-/

set_option autoImplicit false

namespace EntityModel

open EntityModel.Calendar EntityModel.Text

/-- The host types that hold numbers without rounding. -/
def HostType.isExact : HostType → Bool
  | integer _ | decimal => true
  | _ => false

/-- The number that an integer or a decimal is. -/
def Value.number? : Value → Option ℚ
  | integer _ n => some n.val
  | decimal d => some d.toRat
  | _ => none

/-- The length of a duration as it is written, in seconds. -/
def DurationSpelling.inSeconds (d : DurationSpelling) : ℚ :=
  let fraction := d.fraction.getD []
  signed d.negative (d.totalSeconds + digitsValue fraction / 10 ^ fraction.length)

/-- A fraction of whole nanoseconds makes the length a whole number of nanoseconds. -/
theorem DurationSpelling.inSeconds_of_fraction {d : DurationSpelling} {nanos : Nat}
    (fraction : nanosOfFraction? (d.fraction.getD []) = some nanos) :
    d.inSeconds =
      signed d.negative ((d.totalSeconds * nanosPerSecond + nanos : Nat) : ℚ) / nanosPerSecond := by
  have ratio : (digitsValue (d.fraction.getD []) : ℚ) / 10 ^ (d.fraction.getD []).length =
      nanos / nanosPerSecond := by
    rw [div_eq_div_iff (by positivity) (by norm_num [nanosPerSecond])]
    exact_mod_cast (nanosOfFraction?_value fraction).symm
  have unit : (nanosPerSecond : ℚ) ≠ 0 := by norm_num [nanosPerSecond]
  rw [inSeconds, ratio, ← mul_div_cancel_right₀ (signed _ _) unit, ← signed_mul]
  congr 2
  push_cast
  field_simp

theorem SizedInt.val_of_ofInt? {width : IntegerWidth} {i : Int} {n : SizedInt width}
    (built : ofInt? width i = some n) : n.val = i := by
  obtain ⟨_, same⟩ := Option.dite_none_right_eq_some.1 built
  rw [← Option.some.inj same]

/-- A numeral that is a literal of a format is read as every numeral. -/
theorem FloatingSpelling.read?_number {format : FloatFormat} {text : List Char} {n : Numeral}
    (read : FloatingSpelling.read? format text = some (.number n)) :
    Numeral.read? format.form text = some n := by
  unfold FloatingSpelling.read? at read
  split at read
  · cases read
  split at read
  · cases read
  split at read
  · cases read
  split at read
  · next found =>
    split at read <;> cases read
    exact found
  · cases read

namespace PrimitiveKind

/-- The number that a text denotes as a literal of a kind; for a duration its seconds. -/
def Denotes : PrimitiveKind → List Char → ℚ → Prop
  | integer _, text, q | decimal, text, q | floating _, text, q =>
    ∃ n : Numeral, n.WrittenAs text ∧ n.value = q
  | duration, text, q => ∃ d : DurationSpelling, d.WrittenAs text ∧ d.inSeconds = q
  | _, _, _ => False

variable {kind : PrimitiveKind} {target : HostType} {value : Value} {literal : String}

/-- A literal denotes one number at most. -/
theorem Denotes.unique {text : List Char} {q r : ℚ} (one : kind.Denotes text q)
    (other : kind.Denotes text r) : q = r := by
  cases kind with
  | integer width | decimal | floating format =>
    obtain ⟨n, written, rfl⟩ := one
    obtain ⟨m, written', rfl⟩ := other
    rw [written.unique written']
  | duration =>
    obtain ⟨d, written, rfl⟩ := one
    obtain ⟨e, written', rfl⟩ := other
    have same := (DurationSpelling.read?_eq_some_iff.2 written).symm.trans
      (DurationSpelling.read?_eq_some_iff.2 written')
    rw [Option.some.inj same]
  | _ => exact one.elim

section Conversions

theorem number?_ofInt? {n : Int} (built : Value.ofInt? n target = some value) :
    value.number? = some (n : ℚ) := by
  cases target with
  | integer width =>
    obtain ⟨sized, fits, rfl⟩ := Option.map_eq_some_iff.1 built
    rw [Value.number?, SizedInt.val_of_ofInt? fits]
  | _ => cases built

theorem number?_integerValue {width : IntegerWidth} {n : SizedInt width}
    (exact : target.isExact = true) (read : kind.integerValue n target = .ok value) :
    value.number? = some (n.val : ℚ) := by
  cases target with
  | integer wide => exact number?_ofInt? (orMisfit_eq_ok read)
  | decimal =>
    cases read
    simp [Value.number?, SizedInt.toDecimal, Decimal.toRat]
  | _ => cases exact

theorem number?_decimalValue {d : Decimal} (exact : target.isExact = true)
    (read : kind.decimalValue d target = .ok value) : value.number? = some d.toRat := by
  cases target with
  | integer width =>
    obtain ⟨n, whole, built⟩ := Option.bind_eq_some_iff.1 (orMisfit_eq_ok read)
    rw [number?_ofInt? built, Decimal.toRat_of_toInt? whole]
  | decimal =>
    cases read
    rfl
  | _ => cases exact

theorem number?_of_numeral {n : Numeral} {d : Decimal} (exact : target.isExact = true)
    (spelled : Decimal.ofNumeral? n = some d) (read : kind.decimalValue d target = .ok value) :
    value.number? = some n.value := by
  rw [number?_decimalValue exact read, Decimal.toRat_ofNumeral? spelled]

end Conversions

section Literals

/-- A floating-point literal goes into an exact host type as a decimal. -/
theorem floatingLiteralValue_exact {format : FloatFormat} {spelling : FloatingSpelling}
    (exact : target.isExact = true)
    (read : floatingLiteralValue format literal spelling target = .ok value) :
    ∃ d, decimalOfSpelling? spelling = some d ∧ (floating format).decimalValue d target =
      .ok value := by
  cases target with
  | integer width | decimal =>
    simp only [floatingLiteralValue] at read
    split at read
    · next d found => exact ⟨d, found, read⟩
    · cases read
  | _ => cases exact

/-- A run of digits that may have a sign is a numeral without fraction and exponent. -/
theorem denotes_integer {width : IntegerWidth} {n : SizedInt width}
    (read : SizedInt.read? width literal.toList = some n) :
    (integer width).Denotes literal.toList n.val := by
  have spelled := SizedInt.read?_eq_some_iff.1 read
  generalize literal.toList = text, n.val = i at spelled ⊢
  cases spelled with
  | @intro negative sign digits signText run filled =>
    refine ⟨{ negative, whole := digits }, ?_, ?_⟩
    · have written := Numeral.WrittenAs.intro (n := { negative, whole := digits }) signText run
        filled .omitted .omitted
      simpa only [List.append_nil] using written
    · rw [Numeral.value_of_whole, cast_signed]

/-- The nanoseconds of a duration are its seconds as they are written. -/
theorem inSeconds_eq {d : DurationSpelling} {length : Duration}
    (read : d.toDuration? = some length) : d.inSeconds = length.nanos / nanosPerSecond := by
  obtain ⟨magnitude, found, built⟩ := Option.bind_eq_some_iff.1 read
  obtain ⟨nanos, fraction, rfl, -⟩ := DurationSpelling.magnitude?_eq_some_iff.1 found
  rw [DurationSpelling.inSeconds_of_fraction fraction, Duration.ofNanos?_eq_some built, cast_signed]

theorem number?_durationLiteralValue {d : DurationSpelling} (exact : target.isExact = true)
    (read : durationLiteralValue literal d target = .ok value) :
    value.number? = some d.inSeconds := by
  cases target with
  | decimal =>
    obtain ⟨seconds, built, rfl⟩ := Option.map_eq_some_iff.1 (orMisfit_eq_ok read)
    obtain ⟨length, found, parts⟩ := Option.bind_eq_some_iff.1 built
    obtain ⟨coefficient, scale⟩ := Decimal.ofParts?_eq_some parts
    rw [Value.number?, Decimal.toRat_normalize, inSeconds_eq found, Decimal.toRat, coefficient,
      scale]
    rfl
  | integer width => cases read
  | _ => cases exact

/-- A number that is read into an exact host type is the one that the literal denotes. -/
theorem valueOf_denotes (exact : target.isExact = true)
    (read : kind.valueOf literal target = .ok value) :
    ∃ q, value.number? = some q ∧ kind.Denotes literal.toList q := by
  unfold valueOf at read
  split at read
  · cases read
  next spelling spelled =>
  cases kind with
  | integer width =>
    exact ⟨_, number?_integerValue exact read, denotes_integer spelled⟩
  | decimal =>
    have written := (Numeral.read?_eq_some_iff.1 spelled).1
    simp only [spellingValue, decimalLiteralValue] at read
    split at read
    · next found => exact ⟨_, number?_of_numeral exact found read, spelling, written, rfl⟩
    · cases read
  | floating format =>
    obtain ⟨d, found, converted⟩ := floatingLiteralValue_exact exact read
    cases spelling with
    | number n =>
      have written := (Numeral.read?_eq_some_iff.1 (FloatingSpelling.read?_number spelled)).1
      exact ⟨_, number?_of_numeral exact found converted, n, written, rfl⟩
    | nan => cases found
    | infinity => cases found
  | duration =>
    exact ⟨_, number?_durationLiteralValue exact read, spelling,
      DurationSpelling.read?_eq_some_iff.1 spelled, rfl⟩
  | binary | boolean | date | dateTimeOffset | guid | string | timeOfDay =>
    cases target with
    | integer | decimal => cases read
    | _ => cases exact

end Literals

end PrimitiveKind

namespace ScalarType

/-- A number that is read into an integer or a decimal is the one number that the literal denotes,
whatever the facets are. So all host types that a literal can be read into get the same number. -/
theorem read_exact (kind : PrimitiveKind) (facets : Facets) (target : HostType) (literal : String)
    (value : Value) (exact : target.isExact = true)
    (read : (primitive kind).read facets target (some literal) = .ok (some value)) :
    (∃ q, value.number? = some q ∧ ∀ r, kind.Denotes literal.toList r ↔ r = q) ∧
      ∀ (otherFacets : Facets) (otherTarget : HostType) (otherValue : Value),
        otherTarget.isExact = true →
        (primitive kind).read otherFacets otherTarget (some literal) = .ok (some otherValue) →
        otherValue.number? = value.number? := by
  have denoted {facets : Facets} {target : HostType} {value : Value}
      (exact : target.isExact = true)
      (read : (primitive kind).read facets target (some literal) = .ok (some value)) :
      ∃ q, value.number? = some q ∧ kind.Denotes literal.toList q := by
    obtain ⟨_, found, same⟩ := map_eq_ok_iff.1 read
    obtain ⟨_, -, converted⟩ := bind_eq_ok_iff.1 found
    obtain rfl := Option.some.inj same
    exact kind.valueOf_denotes exact converted
  obtain ⟨q, number, denotes⟩ := denoted exact read
  refine ⟨⟨q, number, fun r => ⟨fun other => other.unique denotes, ?_⟩⟩, ?_⟩
  · rintro rfl
    exact denotes
  · intro otherFacets otherTarget otherValue otherExact otherRead
    obtain ⟨r, otherNumber, otherDenotes⟩ := denoted otherExact otherRead
    rw [number, otherNumber, otherDenotes.unique denotes]

/-- The exponent moves the point beyond the last digit. -/
theorem read_exact_scientific :
    (primitive (.floating .single)).read .empty (.integer .int16) (some "+1.25e3") =
        .ok (some (.integer .int16 ⟨1250, by decide⟩)) ∧
      ∀ r, PrimitiveKind.Denotes (.floating .single) "+1.25e3".toList r ↔ r = 1250 := by
  have read : (primitive (.floating .single)).read .empty (.integer .int16) (some "+1.25e3") =
      .ok (some (.integer .int16 ⟨1250, by decide⟩)) := by rfl
  obtain ⟨⟨q, number, denotes⟩, -⟩ := read_exact _ _ _ _ _ rfl read
  obtain rfl : 1250 = q := Option.some.inj number
  exact ⟨read, denotes⟩

end ScalarType

end EntityModel
