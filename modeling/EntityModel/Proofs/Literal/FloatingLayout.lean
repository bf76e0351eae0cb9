import EntityModel.Proofs.Literal.Floating

/-!
How the digits of a floating-point number are laid out. The scientific form of a number has texts of
its own, with one digit in front of the point. A literal is another text for the same number: in
plain notation zeros fill the places between the digits and the point, and where they are too many
the point stays and the exponent is written.
-/

set_option autoImplicit false

namespace EntityModel.Scientific

open EntityModel.Text Numeral

/-- The texts of a scientific form: a digit, any further digits after a point, and the exponent.
There are no plus signs. -/
inductive WrittenAs : Scientific → List Char → Prop where
  | intro {negative below : Bool} {first : Char} {rest point power : List Char} :
      first.isDigit = true → FractionText rest point → Digits power → power ≠ [] →
      WrittenAs
        ⟨negative, first :: rest, if below then -(digitsValue power : Int) else digitsValue power⟩
        ((if negative then ['-'] else []) ++
          first :: (point ++ 'e' :: ((if below then ['-'] else []) ++ power)))

/-- Places in front of the point in plain notation. -/
def wholePlaces (s : Scientific) : Nat := max 1 (s.exponent + 1).toNat

/-- Places after the point in plain notation. -/
def fractionPlaces (s : Scientific) : Nat := max 1 (s.digits.length - 1 - s.exponent).toNat

/-- Plain notation is for exponents around zero, if neither side of the point is too long. -/
def FitsPlain (maxDigits : Nat) (s : Scientific) : Prop :=
  -3 ≤ s.exponent ∧ s.exponent ≤ 6 ∧ s.wholePlaces ≤ maxDigits ∧ s.fractionPlaces ≤ maxDigits

variable {maxDigits : Nat} {s : Scientific} {text : List Char}

section Texts

theorem WrittenAs.digits (written : s.WrittenAs text) : Digits s.digits := by
  cases written with
  | intro digit further => exact digits_cons_iff.2 ⟨digit, further.run⟩

theorem WrittenAs.filled (written : s.WrittenAs text) : s.digits ≠ [] := by
  cases written with
  | intro => exact List.cons_ne_nil _ _

/-- A text of a scientific form is the text of a numeral for the same number. -/
theorem WrittenAs.exists_numeral (written : s.WrittenAs text) :
    ∃ m : Numeral, m.WrittenAs text ∧ m.negative = s.negative ∧
      (m.ratio.1 : ℚ) / m.ratio.2 = s.magnitude := by
  cases written with
  | @intro negative below first rest point power digit further run filled =>
    -- The same characters in the same places, with the one digit as the whole part.
    refine ⟨⟨negative, [first], rest, below, power⟩, ?_, rfl, ?_⟩
    · exact .intro (signText_minus negative) (digits_cons_iff.2 ⟨digit, digits_nil⟩)
        (List.cons_ne_nil _ _) further (.mark (.inl rfl) (signText_minus below) run filled)
    · rw [Numeral.ratio_eq, magnitude]
      simp only [Numeral.exponent, List.singleton_append, List.length_cons]
      congr 2
      omega

end Texts

section Places

theorem length_orZero (digits : List Char) : (orZero digits).length = max 1 digits.length := by
  unfold orZero
  split
  next empty => rw [empty]; rfl
  next filled => exact (Nat.max_eq_right (List.length_pos_iff.2 filled)).symm

theorem length_toPositional_whole (s : Scientific) :
    s.toPositional.whole.length = s.wholePlaces := by
  unfold toPositional wholePlaces
  split
  · simp only [List.length_singleton]
    omega
  · simp only [List.length_append, List.length_take, List.length_replicate]
    omega

theorem length_toPositional_fraction (s : Scientific) :
    (orZero s.toPositional.fraction).length = s.fractionPlaces := by
  rw [length_orZero]
  unfold toPositional fractionPlaces
  split
  · simp only [List.length_append, List.length_replicate]
    omega
  · simp only [List.length_drop]
    omega

theorem literalNumeral_of_fits (fits : s.FitsPlain maxDigits) :
    s.literalNumeral maxDigits =
      { negative := s.negative
        whole := s.toPositional.whole
        fraction := orZero s.toPositional.fraction } := by
  obtain ⟨low, high, whole, fraction⟩ := fits
  refine if_pos ⟨⟨low, high⟩, ?_, ?_⟩
  · rwa [length_toPositional_whole]
  · rwa [length_toPositional_fraction]

theorem literalNumeral_of_not_fits (crowded : ¬ s.FitsPlain maxDigits) :
    s.literalNumeral maxDigits =
      { negative := s.negative
        whole := s.digits.take 1
        fraction := orZero (s.digits.drop 1)
        exponentNegative := s.exponent < 0
        exponentDigits := Nat.toDigits 10 s.exponent.natAbs } := by
  refine if_neg fun ⟨⟨low, high⟩, whole, fraction⟩ => crowded ⟨low, high, ?_, ?_⟩
  · rwa [length_toPositional_whole] at whole
  · rwa [length_toPositional_fraction] at fraction

theorem fraction_literalNumeral (maxDigits : Nat) (s : Scientific) :
    (s.literalNumeral maxDigits).fraction ≠ [] := by
  unfold literalNumeral
  split <;> exact orZero_ne_nil _

end Places

/-- A literal is laid out exactly. It is in the grammar of the format and stands for the number of
the scientific form, sign included, with a digit after the point. The notation is plain where it
fits, and then it has the places that the exponent demands; elsewhere the exponent is written. -/
theorem layout_exact (format : FloatFormat) (written : s.WrittenAs text)
    (short : s.digits.length ≤ format.decimalDigits)
    (small : s.exponent.natAbs < 10 ^ format.form.maxExponentDigits) :
    ∃ m n : Numeral, m.WrittenAs text ∧
      Numeral.read? format.form (s.literal format.decimalDigits) = some n ∧
      n.negative = m.negative ∧ n.value = m.value ∧ n.fraction ≠ [] ∧
      (s.FitsPlain format.decimalDigits →
        n.exponentDigits = [] ∧ n.whole.length = s.wholePlaces ∧
          n.fraction.length = s.fractionPlaces) ∧
      (¬ s.FitsPlain format.decimalDigits →
        n.exponentDigits ≠ [] ∧ n.whole.length = 1 ∧ n.exponent = s.exponent) := by
  -- The notations are one numeral each; value, sign and form do not depend on which it is.
  have follows := literalNumeral_follows written.digits written.filled short small
  obtain ⟨m, m_written, sign, number⟩ := written.exists_numeral
  have same_sign := (negative_literalNumeral format.decimalDigits s).trans sign.symm
  have same_ratio := (value_literalNumeral format.decimalDigits written.filled).trans number.symm
  refine ⟨m, s.literalNumeral format.decimalDigits, m_written, ?_, same_sign, ?_,
    fraction_literalNumeral _ s, ?plain, ?scientific⟩
  · rw [literal_eq]
    exact Numeral.read?_fullText follows
  · rw [Numeral.value, Numeral.value, same_sign, same_ratio]
  case plain =>
    intro fits
    rw [literalNumeral_of_fits fits]
    exact ⟨rfl, length_toPositional_whole s, length_toPositional_fraction s⟩
  case scientific =>
    intro crowded
    rw [literalNumeral_of_not_fits crowded]
    refine ⟨Nat.toDigits_ne_nil, ?_, ?_⟩
    · have positive := List.length_pos_iff.2 written.filled
      simp only [List.length_take]
      omega
    · simp only [Numeral.exponent, digitsValue_toDigits, decide_eq_true_eq]
      omega

/-- Seventeen digits need nineteen places after the point where two digits need four. -/
theorem layout_exact_crowded :
    (∃ m n : Numeral, m.WrittenAs "-1.2345678901234567e-3".toList ∧
      Numeral.read? (FloatFormat.form .double)
          (literal 17 ⟨true, "12345678901234567".toList, -3⟩) = some n ∧
      n.negative = m.negative ∧ n.value = m.value ∧ n.exponentDigits ≠ [] ∧ n.exponent = -3) ∧
    ∃ m n : Numeral, m.WrittenAs "-1.5e-3".toList ∧
      Numeral.read? (FloatFormat.form .single) (literal 9 ⟨true, "15".toList, -3⟩) = some n ∧
      n.negative = m.negative ∧ n.value = m.value ∧ n.exponentDigits = [] ∧
      n.whole.length = 1 ∧ n.fraction.length = 4 := by
  have long : WrittenAs ⟨true, "12345678901234567".toList, -3⟩ "-1.2345678901234567e-3".toList :=
    @WrittenAs.intro true true '1' "2345678901234567".toList ".2345678901234567".toList ['3'] rfl
      (.point (List.all_eq_true.1 rfl) (by decide)) (List.all_eq_true.1 rfl) (by decide)
  have brief : WrittenAs ⟨true, "15".toList, -3⟩ "-1.5e-3".toList :=
    @WrittenAs.intro true true '1' "5".toList ".5".toList ['3'] rfl
      (.point (List.all_eq_true.1 rfl) (by decide)) (List.all_eq_true.1 rfl) (by decide)
  have crowded : ¬ FitsPlain 17 ⟨true, "12345678901234567".toList, -3⟩ := by
    unfold FitsPlain
    decide
  have fits : FitsPlain 9 ⟨true, "15".toList, -3⟩ := by
    unfold FitsPlain
    decide
  obtain ⟨m, n, written, read, sign, same, -, -, scientific⟩ :=
    layout_exact .double long (by decide) (by decide)
  obtain ⟨m', n', written', read', sign', same', -, plain, -⟩ :=
    layout_exact .single brief (by decide) (by decide)
  obtain ⟨shown, -, exponent⟩ := scientific crowded
  obtain ⟨hidden, whole, fraction⟩ := plain fits
  exact ⟨⟨m, n, written, read, sign, same, shown, exponent⟩,
    m', n', written', read', sign', same', hidden, whole, fraction⟩

end EntityModel.Scientific
