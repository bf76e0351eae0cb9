import EntityModel.Proofs.Literal.Representable
import EntityModel.Proofs.Literal.Temporal

/-!
Durations are exact. A literal is read if its length is a whole number of nanoseconds whose magnitude
has 127 bits at most; that the counts and their sums are checked one by one makes no difference. Each
duration is written in balanced units, and so is a decimal that counts seconds, and the length that
is read back is the one that was written. The least duration alone is written and not read.
-/

set_option autoImplicit false

namespace EntityModel

open EntityModel.Calendar EntityModel.Text

theorem Duration.eq_of_nanos {first second : Duration} (same : first.nanos = second.nanos) :
    first = second := by
  cases first
  cases second
  cases same
  rfl

/-- As seconds, a decimal is a whole number of nanoseconds, of 96 bits at most. -/
def Decimal.CountsNanos (seconds : Decimal) : Prop :=
  ∃ n : ℤ, seconds.toRat * 10 ^ 9 = n ∧ n.natAbs < 2 ^ 96

namespace DurationSpelling

variable {d : DurationSpelling} {text : List Char} {length : Duration}

/-- Nothing but zeros is written below the nanosecond. -/
def InNanos (d : DurationSpelling) : Prop := ∀ c ∈ (d.fraction.getD []).drop 9, c = '0'

instance (d : DurationSpelling) : Decidable d.InNanos :=
  List.decidableBAll (· = '0') ((d.fraction.getD []).drop 9)

theorem WrittenAs.run (written : d.WrittenAs text) : Digits (d.fraction.getD []) := by
  obtain ⟨-, clock, -⟩ := written
  exact clock.fraction_digits

theorem WrittenAs.exists_nanos (written : d.WrittenAs text) (whole : d.InNanos) :
    ∃ n : ℤ, d.inSeconds = n / 10 ^ 9 := by
  obtain ⟨nanos, fraction⟩ := exists_nanosOfFraction? written.run whole
  refine ⟨if d.negative then -((d.totalSeconds * nanosPerSecond + nanos : ℕ) : ℤ)
    else (d.totalSeconds * nanosPerSecond + nanos : ℕ), ?_⟩
  rw [inSeconds_of_fraction fraction, cast_signed, nanosPerSecond, Nat.cast_pow, Nat.cast_ofNat]

theorem inNanos_of_toDuration? (read : d.toDuration? = some length) : d.InNanos := by
  obtain ⟨magnitude, found, -⟩ := Option.bind_eq_some_iff.1 read
  obtain ⟨nanos, fraction, -⟩ := magnitude?_eq_some_iff.1 found
  exact zeros_of_nanosOfFraction? fraction

/-- The nanoseconds that are read are the length as it is written, whichever count it is in. -/
theorem toDuration?_eq_some_iff (written : d.WrittenAs text) :
    d.toDuration? = some length ↔
      d.inSeconds * 10 ^ 9 = length.nanos ∧ length.nanos.natAbs < 2 ^ 127 := by
  have unit : (10 ^ 9 : ℚ) ≠ 0 := by norm_num
  constructor
  · intro read
    refine ⟨?_, (toDuration?_eq_some read).1⟩
    rw [PrimitiveKind.inSeconds_eq read, nanosPerSecond, Nat.cast_pow, Nat.cast_ofNat,
      div_mul_cancel₀ _ unit]
  · rintro ⟨exactly, fits⟩
    obtain ⟨other, read, same⟩ :=
      exists_toDuration? written ((eq_div_iff unit).2 exactly) fits
    obtain rfl : other = length := Duration.eq_of_nanos same
    exact read

/-- Of the magnitude nothing but the whole sum is asked. -/
theorem exists_toDuration?_iff (written : d.WrittenAs text) :
    (∃ length, d.toDuration? = some length) ↔
      d.InNanos ∧ |d.inSeconds * 10 ^ 9| ≤ 2 ^ 127 - 1 := by
  constructor
  · rintro ⟨length, read⟩
    obtain ⟨exactly, fits⟩ := (toDuration?_eq_some_iff written).1 read
    have bound : |length.nanos| ≤ 2 ^ 127 - 1 := by
      rw [Int.abs_eq_natAbs]
      omega
    refine ⟨inNanos_of_toDuration? read, ?_⟩
    rw [exactly]
    exact_mod_cast bound
  · rintro ⟨whole, bound⟩
    -- The length is whole now, and the bound is one on integers.
    obtain ⟨n, exactly⟩ := written.exists_nanos whole
    rw [exactly, div_mul_cancel₀ _ (by norm_num)] at bound
    have small : |n| ≤ 2 ^ 127 - 1 := by exact_mod_cast bound
    rw [Int.abs_eq_natAbs] at small
    obtain ⟨length, read, -⟩ := exists_toDuration? written exactly (by omega)
    exact ⟨length, read⟩

/-- The literal of a count of nanoseconds has this length, whether it can be read or not. -/
theorem inSeconds_ofNanos (nanos : Int) : (ofNanos nanos).inSeconds = nanos / 10 ^ 9 := by
  rw [inSeconds_of_fraction (nanosOfFraction?_ofNanos nanos), totalSeconds_ofNanos,
    Nat.div_add_mod', ← cast_signed, signed_ofNanos, nanosPerSecond, Nat.cast_pow, Nat.cast_ofNat]

/-- The magnitude of the least duration does not fit, with its sign it would. -/
theorem toDuration?_ofNanos_least : (ofNanos (-2 ^ 127)).toDuration? = none := by
  refine Option.eq_none_iff_forall_ne_some.2 fun length read => ?_
  have written := (balancedText_durationLiteral (-2 ^ 127)).writtenAs
  obtain ⟨exactly, fits⟩ := (toDuration?_eq_some_iff written).1 read
  rw [inSeconds_ofNanos, div_mul_cancel₀ _ (by norm_num)] at exactly
  have least : -2 ^ 127 = length.nanos := by exact_mod_cast exactly
  omega

end DurationSpelling

namespace PrimitiveKind

variable {literal : String} {d : DurationSpelling}

theorem durationLiteralValue_of_none (unread : d.toDuration? = none) :
    durationLiteralValue literal d .duration = .error (duration.misfit literal .duration) := by
  rw [durationLiteralValue, unread]
  rfl

end PrimitiveKind

namespace ScalarType

/-- The literals of durations are the texts that are written like them, with any number of digits in
their counts. Each is read exactly if nothing but zeros is written below the nanosecond and the
length, in nanoseconds, has a magnitude below `2 ^ 127`; then the duration is the length that is
written, and else the literal does not fit. -/
theorem durations_exactly (literal : String) :
    ((primitive .duration).validates .empty (some literal) = true ↔
      ∃ d : DurationSpelling, d.WrittenAs literal.toList) ∧
    ∀ d : DurationSpelling, d.WrittenAs literal.toList →
      ReadsIf .duration literal (d.InNanos ∧ |d.inSeconds * 10 ^ 9| ≤ 2 ^ 127 - 1) fun value =>
        ∃ length : Duration, value = .duration length ∧
          (length.nanos : ℚ) = d.inSeconds * 10 ^ 9 := by
  refine ⟨validates_empty_iff.trans (exists_congr fun _ => DurationSpelling.read?_eq_some_iff), ?_⟩
  intro d written
  refine readsIf_of_spelling (DurationSpelling.read?_eq_some_iff.2 written) ?_ ?_
  · intro fits
    obtain ⟨length, read⟩ := (DurationSpelling.exists_toDuration?_iff written).2 fits
    obtain ⟨exactly, -⟩ := (DurationSpelling.toDuration?_eq_some_iff written).1 read
    exact ⟨.duration length, ⟨length, rfl, exactly.symm⟩,
      PrimitiveKind.durationLiteralValue_of_some read⟩
  · intro unfit
    refine PrimitiveKind.durationLiteralValue_of_none ?_
    exact Option.eq_none_iff_forall_ne_some.2 fun length read =>
      unfit ((DurationSpelling.exists_toDuration?_iff written).1 ⟨length, read⟩)

/-- The greatest magnitude is read, from one count and with zeros at the end. One nanosecond more does
not fit, although the least duration is as long. -/
theorem durations_exactly_limit :
    (∃ length : Duration,
      (primitive .duration).read .empty .duration
          (some "-PT170141183460469231731687303715.884105727000S") =
        .ok (some (.duration length)) ∧ (length.nanos : ℚ) = -(2 ^ 127 - 1)) ∧
    (primitive .duration).read .empty .duration
        (some "-PT170141183460469231731687303715.884105728S") =
      .error (.doesNotFit (.primitive "Duration")
        "-PT170141183460469231731687303715.884105728S" .duration) := by
  have most_written : DurationSpelling.WrittenAs
      ⟨true, 0, 0, 0, 170141183460469231731687303715, some "884105727000".toList⟩
      "-PT170141183460469231731687303715.884105727000S".toList :=
    DurationSpelling.read?_eq_some_iff.1 rfl
  have more_written : DurationSpelling.WrittenAs
      ⟨true, 0, 0, 0, 170141183460469231731687303715, some "884105728".toList⟩
      "-PT170141183460469231731687303715.884105728S".toList :=
    DurationSpelling.read?_eq_some_iff.1 rfl
  have most_long : DurationSpelling.inSeconds
      ⟨true, 0, 0, 0, 170141183460469231731687303715, some "884105727000".toList⟩ * 10 ^ 9 =
        -(2 ^ 127 - 1) := by
    have digits : digitsValue "884105727000".toList = 884105727000 := by decide
    have places : "884105727000".toList.length = 12 := by decide
    simp only [DurationSpelling.inSeconds, Option.getD_some, digits, places]
    norm_num [DurationSpelling.totalSeconds, signed]
  have more_long : DurationSpelling.inSeconds
      ⟨true, 0, 0, 0, 170141183460469231731687303715, some "884105728".toList⟩ * 10 ^ 9 =
        -2 ^ 127 := by
    have digits : digitsValue "884105728".toList = 884105728 := by decide
    have places : "884105728".toList.length = 9 := by decide
    simp only [DurationSpelling.inSeconds, Option.getD_some, digits, places]
    norm_num [DurationSpelling.totalSeconds, signed]
  obtain ⟨-, most_reads⟩ := durations_exactly "-PT170141183460469231731687303715.884105727000S"
  obtain ⟨-, more_reads⟩ := durations_exactly "-PT170141183460469231731687303715.884105728S"
  obtain ⟨_, ⟨length, rfl, exactly⟩, read⟩ :=
    (most_reads _ most_written).1 ⟨by decide, by rw [most_long]; norm_num⟩
  refine ⟨⟨length, read, exactly.trans most_long⟩, (more_reads _ more_written).2 ?_⟩
  rw [more_long]
  norm_num

/-- What is written is the literal of the nanoseconds that the value holds, if it holds any. -/
theorem write_duration (value : Value) :
    (primitive .duration).write .empty (some value) =
      (PrimitiveKind.toNanos value).map fun nanos =>
        some (String.ofList (durationLiteral nanos)) := by
  rw [write, PrimitiveKind.write, PrimitiveKind.writeText, PrimitiveKind.writeDuration]
  cases PrimitiveKind.toNanos value <;> rfl

theorem read_durationLiteral {length : Duration} (fits : length.nanos.natAbs < 2 ^ 127) :
    (primitive .duration).read .empty .duration
        (some (String.ofList (durationLiteral length.nanos))) =
      .ok (some (.duration length)) :=
  (read_empty (PrimitiveKind.spelling?_duration length.nanos)).trans
    (map_eq_ok_iff.2 ⟨_, PrimitiveKind.durationLiteralValue_of_some
      (DurationSpelling.toDuration?_ofNanos fits), rfl⟩)

theorem read_durationLiteral_least :
    (primitive .duration).read .empty .duration
        (some (String.ofList (durationLiteral (-2 ^ 127)))) =
      .error (.doesNotFit (PrimitiveKind.duration.qualifiedName)
        (String.ofList (durationLiteral (-2 ^ 127))) .duration) :=
  (read_empty (PrimitiveKind.spelling?_duration (-2 ^ 127))).trans
    (map_eq_error_iff.2
      (PrimitiveKind.durationLiteralValue_of_none DurationSpelling.toDuration?_ofNanos_least))

/-- Every duration is written in balanced units, with its own length. It is read back from there,
except for the least one, whose literal is refused as too much for the type that it was written
from. -/
theorem durations_written (length : Duration) :
    ∃ (literal : String) (d : DurationSpelling),
      (primitive .duration).write .empty (some (.duration length)) = .ok (some literal) ∧
      d.BalancedText literal.toList ∧ d.inSeconds * 10 ^ 9 = length.nanos ∧
      (primitive .duration).read .empty .duration (some literal) =
        if length.nanos = -2 ^ 127 then
          .error (.doesNotFit PrimitiveKind.duration.qualifiedName literal .duration)
        else .ok (some (.duration length)) := by
  refine ⟨String.ofList (durationLiteral length.nanos), .ofNanos length.nanos,
    write_duration _, ?_, ?_, ?_⟩
  · rw [String.toList_ofList]
    exact DurationSpelling.balancedText_durationLiteral length.nanos
  · rw [DurationSpelling.inSeconds_ofNanos, div_mul_cancel₀ _ (by norm_num)]
  · split
    · next least =>
      rw [least]
      exact read_durationLiteral_least
    · next other =>
      have least_le := length.least_le
      have lt_limit := length.lt_limit
      exact read_durationLiteral (by omega)

/-- The least duration is not read back. -/
theorem least_duration_unread :
    ¬ ∀ length : Duration, ∃ literal,
      (primitive .duration).write .empty (some (.duration length)) = .ok (some literal) ∧
      (primitive .duration).read .empty .duration (some literal) =
        .ok (some (.duration length)) := by
  intro every
  obtain ⟨literal, written, read⟩ := every ⟨-2 ^ 127, by decide, by decide⟩
  cases (write_duration _).symm.trans written
  cases read_durationLiteral_least.symm.trans read

/-- A decimal is written as a duration exactly if it counts a whole number of nanoseconds, with a
magnitude below `2 ^ 96`, and else it is out of range. As a duration its literal is as many
nanoseconds, and as a decimal it is the same number. -/
theorem decimal_seconds (seconds : Decimal) :
    (seconds.CountsNanos → ∃ (literal : String) (length : Duration) (back : Decimal),
      (primitive .duration).write .empty (some (.decimal seconds)) = .ok (some literal) ∧
      (primitive .duration).read .empty .duration (some literal) =
        .ok (some (.duration length)) ∧
      (length.nanos : ℚ) = seconds.toRat * 10 ^ 9 ∧
      (primitive .duration).read .empty .decimal (some literal) = .ok (some (.decimal back)) ∧
      back.toRat = seconds.toRat) ∧
    (¬ seconds.CountsNanos → (primitive .duration).write .empty (some (.decimal seconds)) =
      .error (.outOfRange PrimitiveKind.duration.qualifiedName seconds.text)) := by
  constructor
  · rintro ⟨n, exactly, small⟩
    -- What a decimal counts in 96 bits a duration holds with room to spare.
    obtain ⟨length, rfl⟩ : ∃ length : Duration, length.nanos = n :=
      ⟨⟨n, by omega, by omega⟩, rfl⟩
    have scaled := Decimal.scaledInt?_eq_some_iff.2 ⟨exactly, small⟩
    have fits : length.nanos.natAbs < 2 ^ 127 := by omega
    have found := DurationSpelling.toDuration?_ofNanos fits
    obtain ⟨back, built⟩ := Decimal.exists_ofParts? small (by decide : 9 ≤ 28)
    refine ⟨String.ofList (durationLiteral length.nanos), length, back.normalize, ?_,
      read_durationLiteral fits, exactly.symm, ?_, ?_⟩
    · rw [write_duration, PrimitiveKind.toNanos, scaled]
      rfl
    · exact (read_empty (PrimitiveKind.spelling?_duration length.nanos)).trans (map_eq_ok_iff.2
        ⟨_, PrimitiveKind.durationLiteralValue_decimal found built, rfl⟩)
    · obtain ⟨coefficient, scale⟩ := Decimal.ofParts?_eq_some built
      rw [Decimal.toRat_normalize, Decimal.toRat, coefficient, scale, ← exactly, Nat.cast_pow,
        Nat.cast_ofNat, mul_div_cancel_right₀ _ (by norm_num)]
  · intro part
    have unscaled : seconds.scaledInt? 9 = none :=
      Option.eq_none_iff_forall_ne_some.2 fun n scaled =>
        part ⟨n, Decimal.scaledInt?_eq_some_iff.1 scaled⟩
    rw [write_duration, PrimitiveKind.toNanos, unscaled]
    rfl

/-- The greatest coefficient counts nanoseconds if nine places are left to it. With one place less
the nanoseconds are ten times as many, too many for a decimal and yet few for a duration. -/
theorem decimal_seconds_limit :
    (∃ (length : Duration) (back : Decimal),
      (primitive .duration).write .empty
          (some (.decimal ⟨79228162514264337593543950335, 9, by decide, by decide⟩)) =
        .ok (some "P916992621692874DT6H39M53.543950335S") ∧
      (primitive .duration).read .empty .duration (some "P916992621692874DT6H39M53.543950335S") =
        .ok (some (.duration length)) ∧ (length.nanos : ℚ) = 2 ^ 96 - 1 ∧
      (primitive .duration).read .empty .decimal (some "P916992621692874DT6H39M53.543950335S") =
        .ok (some (.decimal back)) ∧ back.toRat = (2 ^ 96 - 1) / 10 ^ 9) ∧
    (primitive .duration).write .empty
        (some (.decimal ⟨79228162514264337593543950335, 8, by decide, by decide⟩)) =
      .error (.outOfRange (.primitive "Duration") "792281625142643375935.43950335") := by
  have most_written : (primitive .duration).write .empty
      (some (.decimal ⟨79228162514264337593543950335, 9, by decide, by decide⟩)) =
        .ok (some "P916992621692874DT6H39M53.543950335S") := by rfl
  have most_value :
      (⟨79228162514264337593543950335, 9, by decide, by decide⟩ : Decimal).toRat =
        (2 ^ 96 - 1) / 10 ^ 9 := by norm_num [Decimal.toRat]
  have more_value :
      (⟨79228162514264337593543950335, 8, by decide, by decide⟩ : Decimal).toRat * 10 ^ 9 =
        ((2 ^ 96 - 1) * 10 : ℤ) := by norm_num [Decimal.toRat]
  have most_fits : Decimal.CountsNanos ⟨79228162514264337593543950335, 9, by decide, by decide⟩ :=
    ⟨2 ^ 96 - 1, by rw [most_value]; norm_num, by decide⟩
  have more_long :
      ¬ Decimal.CountsNanos ⟨79228162514264337593543950335, 8, by decide, by decide⟩ := by
    rintro ⟨n, whole, small⟩
    have large : (2 ^ 96 - 1) * 10 = n := by exact_mod_cast more_value.symm.trans whole
    omega
  obtain ⟨literal, length, back, written, read, exactly, again, same⟩ :=
    (decimal_seconds _).1 most_fits
  cases most_written.symm.trans written
  refine ⟨⟨length, back, written, read, ?_, again, same.trans most_value⟩,
    (decimal_seconds _).2 more_long⟩
  rw [exactly, most_value]
  norm_num

end ScalarType

end EntityModel
