import EntityModel.Proofs.Literal.Exactness
import EntityModel.Proofs.Literal.Facets
import EntityModel.Proofs.Number.Places

/-!
The facets of decimals limit numbers, not texts. All valid literals of a number need as many digits
as the number does, and so does the one that is written for it; where the digits are too many, the
error counts those of the number.
-/

set_option autoImplicit false

namespace EntityModel

open EntityModel.Text

/-- The number has no more digits than precision and scale allow. -/
structure Facets.Allow (facets : Facets) (q : ℚ) : Prop where
  precision : ∀ most ∈ facets.precision, HasDigits most q
  scale : ∀ most ∈ facets.scale, HasPlaces most q

/-- The errors for a number with too many digits. They show how many it has. -/
inductive Facets.Exceeded (facets : Facets) (q : ℚ) : ConversionError → Prop where
  | precision {digits most : Nat} : most ∈ facets.precision → most < digits →
      (∀ count, HasDigits count q ↔ digits ≤ count) →
      Exceeded facets q (.tooManyDigits PrimitiveKind.decimal.qualifiedName digits most)
  | scale {digits most : Nat} : most ∈ facets.scale → most < digits →
      (∀ count, HasPlaces count q ↔ digits ≤ count) →
      Exceeded facets q (.tooManyFractionDigits PrimitiveKind.decimal.qualifiedName digits most)

namespace PrimitiveKind

variable {facets : Facets} {n : Numeral} {reason : ConversionError}

/-- The digits of a numeral keep to the facets if its number does. -/
theorem checkFacets_decimal_iff (follows : n.Follows Decimal.form) :
    decimal.checkFacets facets n = .ok () ↔ facets.Allow n.value := by
  have digits {most : Nat} : HasDigits most n.value ↔ n.significantDigits ≤ most :=
    Numeral.hasDigits_value_iff follows
  have places {most : Nat} : HasPlaces most n.value ↔ n.fractionDigits ≤ most :=
    Numeral.hasPlaces_value_iff follows
  constructor
  · intro passed
    obtain ⟨⟨⟩, precision, scale⟩ := bind_eq_ok_iff.1 passed
    exact ⟨fun most limited => digits.2 (checkLimit_eq_ok_iff.1 precision most limited),
      fun most limited => places.2 (checkLimit_eq_ok_iff.1 scale most limited)⟩
  · intro allowed
    exact bind_eq_ok_iff.2
      ⟨(), checkLimit_eq_ok_iff.2 fun most limited => digits.1 (allowed.precision most limited),
        checkLimit_eq_ok_iff.2 fun most limited => places.1 (allowed.scale most limited)⟩

theorem checkFacets_decimal_error (follows : n.Follows Decimal.form)
    (failed : decimal.checkFacets facets n = .error reason) : facets.Exceeded n.value reason := by
  rcases bind_eq_error_iff.1 failed with precision | ⟨-, -, scale⟩
  · obtain ⟨most, limited, more, rfl⟩ := checkLimit_error precision
    exact .precision limited more fun _ => Numeral.hasDigits_value_iff follows
  · obtain ⟨most, limited, more, rfl⟩ := checkLimit_error scale
    exact .scale limited more fun _ => Numeral.hasPlaces_value_iff follows

end PrimitiveKind

namespace ScalarType

/-- A text that the grammar of decimals knows and that stands for the number. -/
structure IsLiteralOf (q : ℚ) (literal : String) : Prop where
  valid : (primitive .decimal).validates .empty (some literal) = true
  denotes : PrimitiveKind.decimal.Denotes literal.toList q

variable {facets : Facets} {q : ℚ} {literal : String}

theorem IsLiteralOf.exists_numeral (known : IsLiteralOf q literal) :
    ∃ n : Numeral, PrimitiveKind.decimal.spelling? literal = some n ∧ n.Follows Decimal.form ∧
      n.value = q := by
  obtain ⟨n, spelled⟩ := validates_empty_iff.1 known.valid
  obtain ⟨written, follows⟩ := Numeral.read?_eq_some_iff.1 spelled
  obtain ⟨m, other, same⟩ := known.denotes
  rw [other.unique written] at same
  exact ⟨n, spelled, follows, same⟩

theorem IsLiteralOf.validates_iff (known : IsLiteralOf q literal) :
    (primitive .decimal).validates facets (some literal) = true ↔ facets.Allow q := by
  obtain ⟨n, spelled, follows, rfl⟩ := known.exists_numeral
  exact (validates_iff_checkFacets spelled).trans (PrimitiveKind.checkFacets_decimal_iff follows)

theorem isLiteralOf_of_read {n : Numeral}
    (read : Numeral.read? Decimal.form literal.toList = some n) : IsLiteralOf n.value literal where
  valid := validates_empty_iff.2 ⟨n, read⟩
  denotes := ⟨n, (Numeral.read?_eq_some_iff.1 read).1, rfl⟩

theorem isLiteralOf_text (d : Decimal) : IsLiteralOf d.toRat d.text := by
  rw [← d.value_toNumeral]
  refine isLiteralOf_of_read ?_
  rw [Decimal.text, String.toList_ofList, d.read?_positionalText]

theorem read_text (d : Decimal) :
    (primitive .decimal).read .empty .decimal (some d.text) = .ok (some (.decimal d)) := by
  have value : PrimitiveKind.decimalLiteralValue d.text d.toNumeral .decimal =
      .ok (.decimal d) := by
    rw [PrimitiveKind.decimalLiteralValue, d.ofNumeral?_toNumeral]
    rfl
  rw [Decimal.text] at value ⊢
  exact (read_empty (PrimitiveKind.spelling?_decimal d)).trans (map_eq_ok_iff.2 ⟨_, value, rfl⟩)

/-- What is written is the normalised decimal, once its digits are checked. -/
theorem write_decimal (facets : Facets) (d : Decimal) :
    (primitive .decimal).write facets (some (.decimal d)) =
      (PrimitiveKind.decimal.checkFacets facets d.normalize.toNumeral).map
        fun _ => some d.normalize.text := by
  have checked : PrimitiveKind.decimal.check facets d.normalize.text =
      PrimitiveKind.decimal.checkFacets facets d.normalize.toNumeral :=
    PrimitiveKind.check_eq_checkFacets (PrimitiveKind.spelling?_decimal d.normalize)
  rw [← checked, write, PrimitiveKind.write, PrimitiveKind.writeText, PrimitiveKind.writeDecimal,
    PrimitiveKind.toDecimal, ok_bind, Decimal.text]
  dsimp only
  cases PrimitiveKind.decimal.check facets
    (String.ofList d.normalize.toNumeral.positionalText) <;> rfl

/-- A decimal is written exactly if the facets allow its number. -/
theorem exists_write_iff {d : Decimal} :
    (∃ text, (primitive .decimal).write facets (some (.decimal d)) = .ok (some text)) ↔
      facets.Allow d.toRat := by
  have checked : PrimitiveKind.decimal.checkFacets facets d.normalize.toNumeral = .ok () ↔ _ :=
    PrimitiveKind.checkFacets_decimal_iff d.normalize.toNumeral_follows
  rw [d.value_normalize] at checked
  rw [write_decimal, ← checked]
  constructor
  · rintro ⟨text, written⟩
    obtain ⟨⟨⟩, passed, -⟩ := map_eq_ok_iff.1 written
    exact passed
  · intro passed
    exact ⟨_, map_eq_ok_iff.2 ⟨(), passed, rfl⟩⟩

theorem exceeded_of_write {d : Decimal} {reason : ConversionError}
    (failed : (primitive .decimal).write facets (some (.decimal d)) = .error reason) :
    facets.Exceeded d.toRat reason := by
  rw [write_decimal] at failed
  rw [← d.value_normalize]
  exact PrimitiveKind.checkFacets_decimal_error d.normalize.toNumeral_follows
    (map_eq_error_iff.1 failed)

theorem read_of_write {d : Decimal} {text : Option String}
    (written : (primitive .decimal).write facets (some (.decimal d)) = .ok text) :
    (primitive .decimal).read facets .decimal text = .ok (some (.decimal d.normalize)) := by
  have inRange (held : Value) (same : some (Value.decimal d) = some held) : held.InRange := by
    cases same
    trivial
  have valid := valid_of_write inRange written
  rw [write_decimal] at written
  obtain ⟨-, -, rfl⟩ := map_eq_ok_iff.1 written
  exact read_eq_ok_iff.2 ⟨valid, read_text d.normalize⟩

/-- The facets of decimals depend on the number, not on its spelling. A literal is valid if the
facets allow its number, so all literals of a number are valid together, and the number of a decimal
is written under the same facets. It is written so that it is read back, and it is refused only for
having too many digits. -/
theorem decimal_facets_exactly (facets : Facets) :
    (∀ (q : ℚ) (literal : String), IsLiteralOf q literal →
      ((primitive .decimal).validates facets (some literal) = true ↔ facets.Allow q)) ∧
    (∀ (q : ℚ) (one other : String), IsLiteralOf q one → IsLiteralOf q other →
      (primitive .decimal).validates facets (some one) =
        (primitive .decimal).validates facets (some other)) ∧
    ∀ d : Decimal,
      (∃ literal, IsLiteralOf d.toRat literal) ∧
      (∀ literal, IsLiteralOf d.toRat literal →
        ((∃ text, (primitive .decimal).write facets (some (.decimal d)) = .ok (some text)) ↔
          (primitive .decimal).validates facets (some literal) = true)) ∧
      (∀ text, (primitive .decimal).write facets (some (.decimal d)) = .ok (some text) →
        ∃ back : Decimal,
          (primitive .decimal).read facets .decimal (some text) = .ok (some (.decimal back)) ∧
            back.toRat = d.toRat) ∧
      ∀ reason, (primitive .decimal).write facets (some (.decimal d)) = .error reason →
        facets.Exceeded d.toRat reason := by
  refine ⟨fun q literal known => known.validates_iff, ?same, fun d => ⟨⟨_, isLiteralOf_text d⟩,
    fun literal known => exists_write_iff.trans known.validates_iff.symm, ?back,
    fun reason => exceeded_of_write⟩⟩
  case same =>
    intro q one other one_known other_known
    exact Bool.eq_iff_iff.2 (one_known.validates_iff.trans other_known.validates_iff.symm)
  case back =>
    intro text written
    exact ⟨d.normalize, read_of_write written, d.toRat_normalize⟩

/-- With five digits, two of them after the point, zeros on either side do not matter, and one more
place does. -/
theorem decimal_facets_exactly_sample :
    (primitive .decimal).validates { precision := some 5, scale := some 2 } (some "00123.4500") =
      (primitive .decimal).validates { precision := some 5, scale := some 2 } (some "+123.45") ∧
    (∃ text, (primitive .decimal).write { precision := some 5, scale := some 2 }
      (some (.decimal ⟨123450, 3, by decide, by decide⟩)) = .ok (some text)) ∧
    Facets.Exceeded { precision := some 5, scale := some 2 } (1234 / 1000)
      (.tooManyFractionDigits (.primitive "Decimal") 3 2) := by
  obtain ⟨-, alike, writes⟩ := decimal_facets_exactly { precision := some 5, scale := some 2 }
  have padded : IsLiteralOf (12345 / 100) "00123.4500" := by
    have value : Numeral.value ⟨false, "00123".toList, "4500".toList, false, []⟩ = 12345 / 100 := by
      decide +kernel
    rw [← value]
    exact isLiteralOf_of_read (by rfl)
  have signed : IsLiteralOf (12345 / 100) "+123.45" := by
    have value : Numeral.value ⟨false, "123".toList, "45".toList, false, []⟩ = 12345 / 100 := by
      decide +kernel
    rw [← value]
    exact isLiteralOf_of_read (by rfl)
  have hundredths : Decimal.toRat ⟨123450, 3, by decide, by decide⟩ = 12345 / 100 := by
    norm_num [Decimal.toRat]
  have thousandths : Decimal.toRat ⟨1234, 3, by decide, by decide⟩ = 1234 / 1000 := by
    norm_num [Decimal.toRat]
  obtain ⟨-, written, -⟩ := writes ⟨123450, 3, by decide, by decide⟩
  obtain ⟨-, -, -, refused⟩ := writes ⟨1234, 3, by decide, by decide⟩
  rw [hundredths] at written
  rw [thousandths] at refused
  exact ⟨alike _ _ _ padded signed, (written _ padded).2 (by rfl), refused _ (by rfl)⟩

end ScalarType

end EntityModel
