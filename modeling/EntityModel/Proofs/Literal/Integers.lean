import EntityModel.Proofs.Literal.Facets
import EntityModel.Proofs.Number.Exactness

/-!
Integers are read from every spelling and written in one. The literals of a width are the texts of
the whole numbers in its range, however many zeros they begin with. A host type gets the number if
it holds it, and then the very same number; a number that is too much for a host type is told apart
from a host type that is not for numbers.
-/

set_option autoImplicit false

namespace EntityModel

open EntityModel.Text

/-- A whole number is written as the core library writes it. -/
theorem ofList_integer (n : Int) : String.ofList (Text.integer n) = toString n := by
  rw [← String.toList_inj, String.toList_ofList]
  cases n with
  | ofNat n => exact Nat.toList_repr.symm
  | negSucc n =>
    rw [Text.integer, if_pos (Int.negSucc_lt_zero n), Int.natAbs_negSucc]
    change _ = ("-" ++ Nat.repr (n + 1)).toList
    rw [String.toList_append, Nat.toList_repr]
    rfl

/-- A whole number up to the limit of a format is not rounded. -/
theorem Floating.ofInt_exact {format : FloatFormat} {n : Int}
    (small : n.natAbs ≤ format.exactIntegerLimit) :
    (ofInt format n).isFinite = true ∧ (ofInt format n).toRat = n := by
  obtain ⟨rank, rank_lt, same⟩ := format.exists_units_of_whole small
  -- The magnitude is a rank of the format, so it is its own nearest rank.
  have nearest : format.nearestRank n.natAbs 1 = rank :=
    format.nearestRank_of_units Nat.one_pos (by rw [Nat.mul_one, same])
  have magnitude : format.magnitude rank = |(n : ℚ)| := by
    have unit : ((2 ^ format.unitPower : Nat) : ℚ) ≠ 0 := by positivity
    rw [FloatFormat.magnitude, same, Nat.cast_mul, mul_div_cancel_right₀ _ unit, Nat.cast_natAbs,
      Int.cast_abs]
  rw [ofInt, Floating.nearest, nearest, ofRank, dif_pos rank_lt]
  refine ⟨rfl, ?_⟩
  rw [toRat, magnitude]
  by_cases negative : n < 0
  · rw [decide_eq_true negative, if_pos rfl, abs_of_neg (Int.cast_lt_zero.2 negative), neg_one_mul,
      neg_neg]
  · rw [decide_eq_false negative, if_neg Bool.false_ne_true, one_mul,
      abs_of_nonneg (Int.cast_nonneg (Int.not_lt.1 negative))]

namespace HostType

/-- The whole numbers that a host type takes. Floating-point numbers are limited to the range in
which every whole number is one of them. -/
def TakesWhole (n : ℤ) : HostType → Prop
  | integer width => width.Contains n
  | decimal => True
  | floating .double => n.natAbs ≤ 2 ^ 53
  | floating .single => n.natAbs ≤ 2 ^ 24
  | _ => False

end HostType

/-- A value is a whole number. -/
def Value.IsWhole (n : ℤ) : Value → Prop
  | integer _ m => m.val = n
  | decimal d => d.toRat = n
  | floating _ x => x.isFinite = true ∧ x.toRat = n
  | _ => False

theorem HostType.takesWhole_floating_iff {format : FloatFormat} {n : ℤ} :
    (floating format).TakesWhole n ↔ n.natAbs ≤ format.exactIntegerLimit := by
  cases format <;> rfl

namespace PrimitiveKind

variable {kind : PrimitiveKind} {width : IntegerWidth} {n : SizedInt width} {target : HostType}

/-- A host type that takes the number gets it. -/
theorem integerValue_of_takes (kind : PrimitiveKind) (n : SizedInt width)
    (takes : target.TakesWhole n.val) :
    ∃ value, kind.integerValue n target = .ok value ∧ value.hostType = target ∧
      value.IsWhole n.val := by
  cases target with
  | integer other =>
    have contains : other.Contains n.val := takes
    refine ⟨.integer other ⟨n.val, contains⟩, ?_, rfl, rfl⟩
    rw [integerValue, Value.ofInt?, SizedInt.ofInt?, dif_pos contains]
    rfl
  | decimal =>
    refine ⟨.decimal n.toDecimal, rfl, rfl, ?_⟩
    simp [Value.IsWhole, SizedInt.toDecimal, Decimal.toRat]
  | floating format =>
    have small := HostType.takesWhole_floating_iff.1 takes
    refine ⟨.floating format (.ofInt format n.val), if_pos small, rfl, Floating.ofInt_exact small⟩
  | _ => exact takes.elim

theorem integerValue_of_not_takes (numeric : target.IsNumeric)
    (refuses : ¬ target.TakesWhole n.val) :
    kind.integerValue n target = .error (kind.misfit (toString n.val) target) := by
  rw [← ofList_integer]
  cases target with
  | integer other =>
    have outside : ¬ other.Contains n.val := refuses
    rw [integerValue, Value.ofInt?, SizedInt.ofInt?, dif_neg outside]
    rfl
  | decimal => exact absurd trivial refuses
  | floating format => exact if_neg fun small => refuses (HostType.takesWhole_floating_iff.2 small)
  | _ => exact numeric.elim

theorem integerValue_of_not_numeric (other : ¬ target.IsNumeric) :
    kind.integerValue n target = .error (kind.unreadable target) := by
  cases target with
  | integer | decimal | floating => exact absurd trivial other
  | _ => rfl

end PrimitiveKind

namespace ScalarType

variable {width : IntegerWidth} {literal : String}

/-- Integer kinds heed no facet. -/
theorem read_integer (facets : Facets) (target : HostType) (n : SizedInt width)
    (written : IntegerText n.val literal.toList) :
    (primitive (.integer width)).read facets target (some literal) =
      ((PrimitiveKind.integer width).integerValue n target).map some := by
  have spelled : (PrimitiveKind.integer width).spelling? literal = some n :=
    SizedInt.read?_eq_some_iff.2 written
  exact read_of_spelling spelled rfl target

theorem read_integer_of_outside (facets : Facets) (target : HostType)
    (outside : ∀ n, IntegerText n literal.toList → ¬ width.Contains n) :
    (primitive (.integer width)).read facets target (some literal) =
      .error (.invalidLiteral (PrimitiveKind.integer width).qualifiedName literal) := by
  have unspelled : (PrimitiveKind.integer width).spelling? literal = none :=
    Option.eq_none_iff_forall_ne_some.2 fun n read =>
      outside n.val (SizedInt.read?_eq_some_iff.1 read) n.contains
  rw [read, PrimitiveKind.read, PrimitiveKind.check, unspelled]
  rfl

/-- What becomes of a whole number in a host type: the number itself, or an error that tells what is
wrong with the host type. -/
structure ReadsWhole (width : IntegerWidth) (n : ℤ) (target : HostType)
    (outcome : Except ConversionError (Option Value)) : Prop where
  taken : target.TakesWhole n →
    ∃ value, outcome = .ok (some value) ∧ value.hostType = target ∧ value.IsWhole n
  misfit : target.IsNumeric → ¬ target.TakesWhole n →
    outcome = .error (.doesNotFit (PrimitiveKind.integer width).qualifiedName (toString n) target)
  foreign : ¬ target.IsNumeric →
    outcome = .error (.unsupportedTarget (PrimitiveKind.integer width).qualifiedName target)

theorem readsWhole_of_written (facets : Facets) (target : HostType) {n : ℤ}
    (written : IntegerText n literal.toList) (contains : width.Contains n) :
    ReadsWhole width n target ((primitive (.integer width)).read facets target (some literal)) := by
  rw [read_integer facets target ⟨n, contains⟩ written]
  constructor
  case taken =>
    intro takes
    obtain ⟨value, done, held, whole⟩ :=
      (PrimitiveKind.integer width).integerValue_of_takes ⟨n, contains⟩ takes
    exact ⟨value, map_eq_ok_iff.2 ⟨value, done, rfl⟩, held, whole⟩
  case misfit =>
    intro numeric refuses
    exact map_eq_error_iff.2 (PrimitiveKind.integerValue_of_not_takes numeric refuses)
  case foreign =>
    intro other
    exact map_eq_error_iff.2 (PrimitiveKind.integerValue_of_not_numeric other)

/-- A number of one width is written by another if it is in its range. -/
theorem write_integer (facets : Facets) {source : IntegerWidth} (n : SizedInt source) :
    (primitive (.integer width)).write facets (some (.integer source n)) =
      if width.Contains n.val then .ok (some (toString n.val))
      else .error (.outOfRange (PrimitiveKind.integer width).qualifiedName (toString n.val)) := by
  rw [write, PrimitiveKind.write, PrimitiveKind.writeText, PrimitiveKind.writeInteger,
    ← ofList_integer]
  split <;> rfl

theorem read_toString (facets : Facets) {source : IntegerWidth} (n : SizedInt source)
    (contains : width.Contains n.val) :
    (primitive (.integer width)).read facets (.integer source) (some (toString n.val)) =
      .ok (some (.integer source n)) := by
  have written : IntegerText n.val (toString n.val).toList := by
    rw [← ofList_integer, String.toList_ofList]
    exact integerText_integer n.val
  rw [read_integer facets _ ⟨n.val, contains⟩ written, PrimitiveKind.integerValue]
  dsimp only
  rw [PrimitiveKind.ofInt?_self n]
  rfl

/-- Whatever the facets are, the literals of a width are the texts of the whole numbers in its
range, and each is read as its number. A number is written if it is in the range, as the one text
without needless signs and zeros, and is read back from it. -/
theorem integers_exactly (width : IntegerWidth) (facets : Facets) :
    (∀ (literal : String) (target : HostType),
      ((∀ n : ℤ, IntegerText n literal.toList → ¬ width.Contains n) →
        (primitive (.integer width)).read facets target (some literal) =
          .error (.invalidLiteral (PrimitiveKind.integer width).qualifiedName literal)) ∧
      ∀ n : ℤ, IntegerText n literal.toList → width.Contains n →
        ReadsWhole width n target
          ((primitive (.integer width)).read facets target (some literal))) ∧
    ∀ (source : IntegerWidth) (n : SizedInt source),
      (width.Contains n.val →
        (primitive (.integer width)).write facets (some (.integer source n)) =
            .ok (some (toString n.val)) ∧
          (primitive (.integer width)).read facets (.integer source) (some (toString n.val)) =
            .ok (some (.integer source n))) ∧
      (¬ width.Contains n.val →
        (primitive (.integer width)).write facets (some (.integer source n)) =
          .error (.outOfRange (PrimitiveKind.integer width).qualifiedName (toString n.val))) := by
  refine ⟨fun literal target => ⟨read_integer_of_outside facets target, fun n written contains =>
    readsWhole_of_written facets target written contains⟩, fun source n => ⟨?inside, ?outside⟩⟩
  case inside =>
    intro contains
    exact ⟨(write_integer facets n).trans (if_pos contains), read_toString facets n contains⟩
  case outside =>
    intro outside
    exact (write_integer facets n).trans (if_neg outside)

/-- One more than the last limit of double precision does not fit there, while it fits the decimals;
the number after the greatest one is no number of the width. -/
theorem integers_exactly_limit :
    (primitive (.integer .int64)).read .empty (.floating .double) (some "+009007199254740993") =
      .error (.doesNotFit (.primitive "Int64") "9007199254740993" (.floating .double)) ∧
    (∃ value, (primitive (.integer .int64)).read .empty .decimal (some "+009007199254740993") =
      .ok (some value) ∧ value.hostType = .decimal ∧ value.IsWhole 9007199254740993) ∧
    (primitive (.integer .int64)).read .empty .string (some "+009007199254740993") =
      .error (.unsupportedTarget (.primitive "Int64") .string) ∧
    (primitive (.integer .int64)).read .empty .decimal (some "9223372036854775808") =
      .error (.invalidLiteral (.primitive "Int64") "9223372036854775808") ∧
    (primitive (.integer .int16)).write .empty
        (some (.integer .int64 ⟨-9223372036854775808, by decide⟩)) =
      .error (.outOfRange (.primitive "Int16") "-9223372036854775808") := by
  obtain ⟨reads, -⟩ := integers_exactly .int64 .empty
  obtain ⟨-, writes⟩ := integers_exactly .int16 .empty
  have written : IntegerText 9007199254740993 "+009007199254740993".toList :=
    readInteger?_eq_some_iff.1 (by rfl)
  have beyond (n : ℤ) (other : IntegerText n "9223372036854775808".toList) :
      ¬ IntegerWidth.int64.Contains n := by
    have read : readInteger? "9223372036854775808".toList = some 9223372036854775808 := by rfl
    rw [← Option.some.inj (read.symm.trans (readInteger?_eq_some_iff.2 other))]
    decide
  have outcome (target : HostType) := (reads "+009007199254740993" target).2 _ written (by decide)
  refine ⟨(outcome _).misfit trivial ?_, (outcome _).taken trivial, (outcome _).foreign id,
    (reads _ _).1 beyond, (writes .int64 _).2 (by decide)⟩
  exact Nat.not_le.2 (by decide)

end ScalarType

end EntityModel
