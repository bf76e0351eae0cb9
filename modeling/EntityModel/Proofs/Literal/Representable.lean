import EntityModel.Proofs.Literal.Exactness
import EntityModel.Proofs.Literal.Facets

/-!
A literal is not refused for a host type that holds the number that it denotes. The number must be
within reach of decimals as it is spelled, because all numbers but plain integers go through one.
Fractions of a nanosecond are refused in any case.
-/

set_option autoImplicit false

namespace EntityModel

open EntityModel.Calendar EntityModel.Text

/-- The numbers that a host type holds without rounding. -/
def HostType.Holds : HostType → ℚ → Prop
  | integer width, q => ∃ n : ℤ, width.Contains n ∧ q = n
  | decimal, q => ∃ (c : ℤ) (s : ℕ), c.natAbs < 2 ^ 96 ∧ s ≤ 28 ∧ q = c / 10 ^ s
  | _, _ => False

/-- Numbers that are within reach of decimals as they are spelled: the digits, read without a point,
make a coefficient, and the last of them is not below the last place. A duration is spelled in
nanoseconds. -/
def PrimitiveKind.InReach : PrimitiveKind → List Char → Prop
  | decimal, text | floating _, text =>
    ∃ n : Numeral, n.WrittenAs text ∧ n.coefficient < 2 ^ 96 ∧ -28 ≤ n.unitExponent
  | duration, text =>
    ∃ (d : DurationSpelling) (n : ℤ), d.WrittenAs text ∧ d.inSeconds = n / 10 ^ 9 ∧
      n.natAbs < 2 ^ 96
  | _, _ => True

variable {target : HostType} {q : ℚ} {literal : String} {kind : PrimitiveKind}

theorem HostType.Holds.isExact (held : target.Holds q) : target.isExact = true := by
  cases target with
  | integer | decimal => rfl
  | _ => exact held.elim

/-- What an exact host type holds is less than what a coefficient can be. -/
theorem HostType.Holds.abs_lt (held : target.Holds q) : |q| < 2 ^ 96 := by
  cases target with
  | integer width =>
    obtain ⟨n, contained, rfl⟩ := held
    have small : (n.natAbs : ℚ) < 2 ^ 64 := by exact_mod_cast SizedInt.natAbs_lt ⟨n, contained⟩
    rw [← Int.cast_abs, Int.abs_eq_natAbs, Int.cast_natCast]
    exact small.trans (by norm_num)
  | decimal =>
    obtain ⟨c, s, small, -, rfl⟩ := held
    have unit : (1 : ℚ) ≤ 10 ^ s := one_le_pow₀ (by norm_num)
    rw [abs_div, abs_of_pos (lt_of_lt_of_le one_pos unit), ← Int.cast_abs, Int.abs_eq_natAbs,
      Int.cast_natCast]
    exact (div_le_self (Nat.cast_nonneg _) unit).trans_lt (by exact_mod_cast small)
  | _ => exact held.elim

/-- A literal that is a numeral is none of the three special words. -/
theorem FloatingSpelling.eq_number_of_writtenAs {format : FloatFormat} {text : List Char}
    {n : Numeral} {spelling : FloatingSpelling} (written : n.WrittenAs text)
    (read : FloatingSpelling.read? format text = some spelling) : spelling = .number n := by
  have numeral := Numeral.read?_eq_some_iff.2 ⟨written, written.follows⟩
  unfold FloatingSpelling.read? at read
  split at read
  · next word =>
    subst word
    cases numeral
  split at read
  · next word =>
    subst word
    cases numeral
  split at read
  · next word =>
    subst word
    cases numeral
  split at read
  · next m found =>
    split at read <;> cases read
    rw [(Numeral.read?_eq_some_iff.1 found).1.unique written]
  · cases read

namespace DurationSpelling

variable {d : DurationSpelling} {text : List Char}

theorem ClockText.fraction_digits {hours minutes seconds : Nat} {fraction : Option (List Char)}
    (written : ClockText hours minutes seconds fraction text) :
    Digits (fraction.getD []) := by
  cases written with
  | omitted => exact digits_nil
  | clock _ _ written =>
    cases written with
    | omitted | whole => exact digits_nil
    | fraction _ _ run => exact run

/-- The nanoseconds are those of the seconds and those of the fraction, all of them times the power
of ten that makes the fraction a whole number. -/
theorem natAbs_mul_eq {n : ℤ} (whole : d.inSeconds = n / 10 ^ 9) :
    n.natAbs * 10 ^ (d.fraction.getD []).length =
      d.totalSeconds * nanosPerSecond * 10 ^ (d.fraction.getD []).length +
        digitsValue (d.fraction.getD []) * nanosPerSecond := by
  have length : |d.inSeconds| = d.totalSeconds +
      digitsValue (d.fraction.getD []) / 10 ^ (d.fraction.getD []).length :=
    abs_signed _ (by positivity)
  rw [whole, abs_div, ← Int.cast_abs, Int.abs_eq_natAbs, Int.cast_natCast,
    abs_of_pos (by positivity)] at length
  field_simp at length
  have scaled : (n.natAbs * 10 ^ (d.fraction.getD []).length : ℚ) =
      d.totalSeconds * 10 ^ 9 * 10 ^ (d.fraction.getD []).length +
        digitsValue (d.fraction.getD []) * 10 ^ 9 := by
    linarith
  rw [nanosPerSecond]
  exact_mod_cast scaled

/-- A length that is a whole number of nanoseconds is a duration if it is not too great. -/
theorem exists_toDuration? (written : d.WrittenAs text) {n : ℤ} (whole : d.inSeconds = n / 10 ^ 9)
    (fits : n.natAbs < 2 ^ 127) : ∃ length, d.toDuration? = some length ∧ length.nanos = n := by
  obtain ⟨-, clock, -⟩ := written
  have magnitude := natAbs_mul_eq whole
  have unit_pos : 0 < 10 ^ (d.fraction.getD []).length := Nat.pow_pos (by decide)
  have reaches : d.totalSeconds * nanosPerSecond ≤ n.natAbs :=
    Nat.le_of_mul_le_mul_right (by omega) unit_pos
  have nanos : nanosOfFraction? (d.fraction.getD []) =
      some (n.natAbs - d.totalSeconds * nanosPerSecond) := by
    refine nanosOfFraction?_of_value clock.fraction_digits ?_
    rw [Nat.sub_mul]
    omega
  have found : d.magnitude? = some n.natAbs :=
    magnitude?_eq_some_iff.2 ⟨_, nanos, by omega, fits⟩
  have range : -2 ^ 127 ≤ (if d.negative then -(n.natAbs : ℤ) else n.natAbs) ∧
      (if d.negative then -(n.natAbs : ℤ) else n.natAbs) < 2 ^ 127 := by
    split <;> omega
  have built : d.toDuration? = some ⟨_, range.1, range.2⟩ := by
    rw [toDuration?, found, Option.bind_some, Duration.ofNanos?, dif_pos range]
  refine ⟨_, built, ?_⟩
  have same := whole.symm.trans (PrimitiveKind.inSeconds_eq built)
  rw [nanosPerSecond, Nat.cast_pow, Nat.cast_ofNat, div_left_inj' (by norm_num)] at same
  exact_mod_cast same.symm

end DurationSpelling

namespace PrimitiveKind

section Conversions

theorem exists_ofInt? {width : IntegerWidth} {n : ℤ} (contained : width.Contains n) :
    ∃ value, Value.ofInt? n (.integer width) = some value :=
  ⟨.integer width ⟨n, contained⟩, by rw [Value.ofInt?, SizedInt.ofInt?, dif_pos contained]; rfl⟩

theorem exists_integerValue {width : IntegerWidth} {n : SizedInt width}
    (held : target.Holds n.val) : ∃ value, kind.integerValue n target = .ok value := by
  cases target with
  | integer wide =>
    obtain ⟨m, contained, same⟩ := held
    obtain rfl : n.val = m := by exact_mod_cast same
    obtain ⟨value, built⟩ := exists_ofInt? contained
    exact ⟨value, by rw [integerValue, built]; rfl⟩
  | decimal => exact ⟨_, rfl⟩
  | _ => exact held.elim

theorem exists_decimalValue {d : Decimal} (held : target.Holds d.toRat) :
    ∃ value, kind.decimalValue d target = .ok value := by
  cases target with
  | integer width =>
    obtain ⟨n, contained, same⟩ := held
    obtain ⟨value, built⟩ := exists_ofInt? contained
    exact ⟨value, by rw [decimalValue, Decimal.toInt?_of_toRat same, Option.bind_some, built]; rfl⟩
  | decimal => exact ⟨_, rfl⟩
  | _ => exact held.elim

end Conversions

section Numerals

variable {n : Numeral}

/-- A numeral spells a decimal if a host type holds its number and the number is within reach. -/
theorem exists_decimal_of_held (held : target.Holds n.value) (digits : n.coefficient < 2 ^ 96)
    (places : n.fraction.length ≤ 28) (last : -28 ≤ n.unitExponent) :
    ∃ d, Decimal.ofNumeral? n = some d ∧ target.Holds d.toRat := by
  obtain ⟨d, spelled⟩ := Decimal.exists_ofNumeral? digits places last held.abs_lt
  exact ⟨d, spelled, by rwa [Decimal.toRat_ofNumeral? spelled]⟩

theorem exists_decimalLiteralValue (follows : n.Follows Decimal.form) (held : target.Holds n.value)
    (digits : n.coefficient < 2 ^ 96) (last : -28 ≤ n.unitExponent) :
    ∃ value, decimalLiteralValue literal n target = .ok value := by
  -- Without an exponent the places of the last digit are those of the fraction.
  have places : n.fraction.length ≤ 28 := by
    rw [Numeral.unitExponent, follows.exponent_eq_zero rfl] at last
    omega
  obtain ⟨d, spelled, held⟩ := exists_decimal_of_held held digits places last
  rw [decimalLiteralValue, spelled]
  exact exists_decimalValue held

theorem exists_floatingLiteralValue {format : FloatFormat} (follows : n.Follows format.form)
    (held : target.Holds n.value) (digits : n.coefficient < 2 ^ 96)
    (last : -28 ≤ n.unitExponent) :
    ∃ value, floatingLiteralValue format literal (.number n) target = .ok value := by
  have places : n.fraction.length ≤ 28 := follows.fraction_short.trans (by cases format <;> decide)
  obtain ⟨d, spelled, held⟩ := exists_decimal_of_held held digits places last
  obtain ⟨value, converted⟩ : ∃ value, (floating format).decimalValue d target = .ok value :=
    exists_decimalValue held
  cases target with
  | integer | decimal =>
    exact ⟨value, by simp only [floatingLiteralValue, decimalOfSpelling?, spelled, converted]⟩
  | _ => exact held.elim

end Numerals

section Durations

variable {d : DurationSpelling} {text : List Char}

/-- As a decimal a duration counts seconds, with nine places before zeros are removed. -/
theorem durationLiteralValue_decimal {length : Duration} {seconds : Decimal}
    (read : d.toDuration? = some length)
    (built : Decimal.ofParts? length.nanos 9 = some seconds) :
    durationLiteralValue literal d .decimal = .ok (.decimal seconds.normalize) := by
  rw [durationLiteralValue, read, Option.bind_some, built]
  rfl

theorem exists_durationLiteralValue (written : d.WrittenAs text) {n : ℤ}
    (whole : d.inSeconds = n / 10 ^ 9) (fits : n.natAbs < 2 ^ 96) :
    ∃ value, durationLiteralValue literal d .decimal = .ok value := by
  obtain ⟨length, found, rfl⟩ := DurationSpelling.exists_toDuration? written whole (by omega)
  obtain ⟨seconds, built⟩ := Decimal.exists_ofParts? fits (by decide : 9 ≤ 28)
  exact ⟨.decimal seconds.normalize, durationLiteralValue_decimal found built⟩

theorem durationLiteralValue_of_fraction (part : ∀ n : ℤ, d.inSeconds ≠ n / 10 ^ 9) :
    durationLiteralValue literal d .decimal = .error (duration.misfit literal .decimal) := by
  have none : d.toDuration? = none := by
    cases found : d.toDuration? with
    | none => rfl
    | some length =>
      refine absurd (inSeconds_eq found) ?_
      rw [nanosPerSecond]
      exact_mod_cast part length.nanos
  rw [durationLiteralValue, none]
  rfl

end Durations

/-- A number within reach is given a value in a host type that holds it. -/
theorem exists_spellingValue {spelling : kind.Spelling}
    (spelled : kind.spelling? literal = some spelling) (denotes : kind.Denotes literal.toList q)
    (held : target.Holds q) (seconds : kind = duration → target = .decimal)
    (reached : kind.InReach literal.toList) :
    ∃ value, kind.spellingValue literal spelling target = .ok value := by
  cases kind with
  | integer width =>
    obtain rfl := denotes.unique (denotes_integer spelled)
    exact exists_integerValue held
  | decimal =>
    obtain ⟨n, written, digits, last⟩ := reached
    obtain ⟨found, follows⟩ := Numeral.read?_eq_some_iff.1 spelled
    obtain rfl := found.unique written
    obtain rfl := denotes.unique ⟨_, written, rfl⟩
    exact exists_decimalLiteralValue follows held digits last
  | floating format =>
    obtain ⟨n, written, digits, last⟩ := reached
    obtain rfl := FloatingSpelling.eq_number_of_writtenAs written spelled
    obtain rfl := denotes.unique ⟨_, written, rfl⟩
    have follows := Numeral.read?_follows (FloatingSpelling.read?_number spelled)
    exact exists_floatingLiteralValue follows held digits last
  | duration =>
    obtain ⟨d, n, written, whole, fits⟩ := reached
    have found := DurationSpelling.read?_eq_some_iff.2 written
    obtain rfl := Option.some.inj (spelled.symm.trans found)
    obtain rfl := seconds rfl
    exact exists_durationLiteralValue written whole fits
  | _ => exact denotes.elim

end PrimitiveKind

namespace ScalarType

/-- A valid literal of a number that a host type holds is read into this host type, however the
number is spelled within reach of decimals. A duration that is no whole number of nanoseconds is
refused although its seconds may be a decimal. -/
theorem read_of_held (valid : (primitive kind).validates .empty (some literal) = true)
    (denotes : kind.Denotes literal.toList q) (held : target.Holds q)
    (seconds : kind = .duration → target = .decimal) :
    (kind.InReach literal.toList → ∃ value,
      (primitive kind).read .empty target (some literal) = .ok (some value) ∧
        value.number? = some q) ∧
    (kind = .duration → (∀ n : ℤ, q ≠ n / 10 ^ 9) →
      (primitive kind).read .empty target (some literal) =
        .error (.doesNotFit kind.qualifiedName literal target)) := by
  have checked : kind.check .empty literal = .ok () := PrimitiveKind.validates_iff_check.1 valid
  obtain ⟨spelling, spelled, -⟩ := PrimitiveKind.check_eq_ok_iff.1 checked
  have read_eq : (primitive kind).read .empty target (some literal) =
      (kind.spellingValue literal spelling target).map some := by
    simp only [read, PrimitiveKind.read, checked, ok_bind, PrimitiveKind.valueOf, spelled]
  constructor
  · intro reached
    obtain ⟨value, converted⟩ := kind.exists_spellingValue spelled denotes held seconds reached
    have done : (primitive kind).read .empty target (some literal) = .ok (some value) := by
      rw [read_eq, converted]
      rfl
    obtain ⟨⟨r, number, unique⟩, -⟩ := read_exact kind .empty target literal value held.isExact done
    exact ⟨value, done, by rw [number, (unique q).1 denotes]⟩
  · rintro rfl part
    obtain rfl := seconds rfl
    obtain ⟨d, written, rfl⟩ := denotes
    have found := DurationSpelling.read?_eq_some_iff.2 written
    obtain rfl := Option.some.inj (spelled.symm.trans found)
    rw [read_eq]
    exact congrArg (Except.map some) (PrimitiveKind.durationLiteralValue_of_fraction part)

/-- The numeral `+79.20e27`; the greatest decimal begins with `7.922e28`. -/
def nearLimit : Numeral where
  negative := false
  whole := ['7', '9']
  fraction := ['2', '0']
  exponentDigits := ['2', '7']

theorem read_of_held_near_limit :
    (primitive (.floating .single)).validates .empty (some "+79.20e27") = true ∧ ∃ value,
      (primitive (.floating .single)).read .empty .decimal (some "+79.20e27") = .ok (some value) ∧
        value.number? = some (792 * 10 ^ 26) := by
  have valid : (primitive (.floating .single)).validates .empty (some "+79.20e27") = true := by rfl
  have spelled : Numeral.read? FloatFormat.single.form "+79.20e27".toList = some nearLimit := by rfl
  have written := (Numeral.read?_eq_some_iff.1 spelled).1
  have ratio : nearLimit.ratio = (792 * 10 ^ 26, 1) := by decide
  have value : nearLimit.value = 792 * 10 ^ 26 := by
    rw [Numeral.value, ratio]
    norm_num [nearLimit]
  have held : HostType.Holds .decimal (792 * 10 ^ 26) :=
    ⟨792 * 10 ^ 26, 0, by decide, by decide, by norm_num⟩
  have reads := read_of_held valid ⟨nearLimit, written, value⟩ held (by rintro ⟨⟩)
  exact ⟨valid, reads.1 ⟨nearLimit, written, by decide, by decide⟩⟩

/-- The duration `PT0.0000000001S`. -/
def tenthOfNanosecond : DurationSpelling where
  negative := false
  days := 0
  hours := 0
  minutes := 0
  seconds := 0
  fraction := some ['0', '0', '0', '0', '0', '0', '0', '0', '0', '1']

/-- A tenth of a nanosecond is a decimal number of seconds, but it is refused. -/
theorem held_but_refused : ¬ ∀ (kind : PrimitiveKind) (target : HostType) (literal : String)
    (q : ℚ), (primitive kind).validates .empty (some literal) = true →
    kind.Denotes literal.toList q → target.Holds q → (kind = .duration → target = .decimal) →
    ∃ value, (primitive kind).read .empty target (some literal) = .ok (some value) := by
  intro accepted
  have spelled : DurationSpelling.read? "PT0.0000000001S".toList = some tenthOfNanosecond := by rfl
  have written := DurationSpelling.read?_eq_some_iff.1 spelled
  have fraction : digitsValue (tenthOfNanosecond.fraction.getD []) = 1 := by decide
  have seconds : tenthOfNanosecond.inSeconds = 1 / 10 ^ 10 := by
    rw [DurationSpelling.inSeconds, fraction]
    norm_num [tenthOfNanosecond, DurationSpelling.totalSeconds, signed]
  have held : HostType.Holds .decimal (1 / 10 ^ 10) :=
    ⟨1, 10, by decide, by decide, by norm_num⟩
  obtain ⟨value, done⟩ := accepted .duration .decimal "PT0.0000000001S" _ rfl
    ⟨tenthOfNanosecond, written, seconds⟩ held fun _ => rfl
  cases done

end ScalarType

end EntityModel
