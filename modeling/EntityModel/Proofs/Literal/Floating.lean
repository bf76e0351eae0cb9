import EntityModel.Proofs.Number.Exactness
import EntityModel.Proofs.Number.Scientific

/-!
A floating-point number is read back from its literal, in plain and in scientific notation alike.
Either notation is the text of a numeral that denotes the same number as the shortest digits do.
-/

set_option autoImplicit false

namespace EntityModel

open EntityModel.Text

namespace Scientific

section Notations

theorem orZero_ne_nil (digits : List Char) : orZero digits ≠ [] := by
  unfold orZero
  split
  · simp
  · assumption

theorem digits_orZero {digits : List Char} (run : Digits digits) : Digits (orZero digits) := by
  unfold orZero
  split
  · exact digits_cons_iff.2 ⟨rfl, digits_nil⟩
  · exact run

/-- A zero after the point changes nothing. -/
theorem value_orZero (whole fraction : List Char) (exponent : Int) :
    (digitsValue (whole ++ orZero fraction) : ℚ) * 10 ^ (exponent - (orZero fraction).length) =
      digitsValue (whole ++ fraction) * 10 ^ (exponent - fraction.length) := by
  unfold orZero
  split
  next empty =>
    have zero := value_append_zeros whole 1 (exponent - 1)
    rw [List.replicate_one] at zero
    rw [empty, List.append_nil, List.length_singleton, List.length_nil, Nat.cast_one, zero]
    congr 2
    simp
  next => rfl

/-- The numeral that is written for a scientific form. -/
def literalNumeral (maxDigits : Nat) (s : Scientific) : Numeral :=
  if s.HasPlainExponent ∧ s.toPositional.whole.length ≤ maxDigits ∧
      (orZero s.toPositional.fraction).length ≤ maxDigits then
    { negative := s.negative
      whole := s.toPositional.whole
      fraction := orZero s.toPositional.fraction }
  else
    { negative := s.negative
      whole := s.digits.take 1
      fraction := orZero (s.digits.drop 1)
      exponentNegative := s.exponent < 0
      exponentDigits := Nat.toDigits 10 s.exponent.natAbs }

theorem literal_eq (maxDigits : Nat) (s : Scientific) :
    s.literal maxDigits = (s.literalNumeral maxDigits).fullText := by
  unfold literal literalNumeral
  dsimp only
  split
  · simp [Numeral.fullText, Numeral.positionalText, Numeral.exponentText, orZero_ne_nil]
  · by_cases negative : s.exponent < 0
    · simp [Numeral.fullText, Numeral.positionalText, Numeral.exponentText, orZero_ne_nil, integer,
        negative]
    · simp [Numeral.fullText, Numeral.positionalText, Numeral.exponentText, orZero_ne_nil, integer,
        negative]

theorem negative_literalNumeral (maxDigits : Nat) (s : Scientific) :
    (s.literalNumeral maxDigits).negative = s.negative := by
  unfold literalNumeral
  split <;> rfl

end Notations

section Values

variable {s : Scientific}

theorem toPositional_digits (run : Digits s.digits) :
    Digits s.toPositional.whole ∧ Digits s.toPositional.fraction := by
  unfold toPositional
  split
  · exact ⟨digits_cons_iff.2 ⟨rfl, digits_nil⟩,
      digits_append_iff.2 ⟨digits_replicate_zero _, run⟩⟩
  · exact ⟨digits_append_iff.2 ⟨run.take _, digits_replicate_zero _⟩, run.drop _⟩

theorem toPositional_filled (filled : s.digits ≠ []) : 1 ≤ s.toPositional.whole.length := by
  have positive := List.length_pos_iff.2 filled
  unfold toPositional
  split
  · exact Nat.le_refl 1
  · simp only [List.length_append, List.length_take, List.length_replicate]
    omega

theorem value_toPositional (s : Scientific) :
    (digitsValue (s.toPositional.whole ++ s.toPositional.fraction) : ℚ) *
      10 ^ (0 - (s.toPositional.fraction.length : Int)) = s.magnitude := by
  rw [magnitude]
  unfold toPositional
  split
  next below =>
    have value : digitsValue (['0'] ++ (List.replicate (-s.exponent - 1).toNat '0' ++ s.digits)) =
        digitsValue s.digits :=
      (digitsValue_zeros 1 _).trans (digitsValue_zeros _ _)
    dsimp only
    rw [value, List.length_append, List.length_replicate]
    congr 2
    omega
  next above =>
    dsimp only
    -- Either digits are left for the fraction, or zeros fill the whole part.
    rcases Nat.lt_or_ge (s.exponent.toNat + 1) s.digits.length with long | short
    · have none_left : s.exponent.toNat + 1 - s.digits.length = 0 := by omega
      rw [none_left, List.replicate_zero, List.append_nil, List.take_append_drop, List.length_drop]
      congr 2
      omega
    · rw [List.take_of_length_le short, List.drop_eq_nil_of_le short, List.append_nil,
        value_append_zeros, List.length_nil]
      congr 2
      omega

theorem value_literalNumeral (maxDigits : Nat) (filled : s.digits ≠ []) :
    ((s.literalNumeral maxDigits).ratio.1 : ℚ) / (s.literalNumeral maxDigits).ratio.2 =
      s.magnitude := by
  have positive := List.length_pos_iff.2 filled
  rw [Numeral.ratio_eq]
  unfold literalNumeral
  split
  · rw [← s.value_toPositional]
    exact value_orZero _ _ 0
  · have exponent : (if s.exponent < 0 then -(s.exponent.natAbs : Int)
        else s.exponent.natAbs) = s.exponent := by
      split <;> omega
    simp only [Numeral.exponent, decide_eq_true_eq, digitsValue_toDigits, exponent, value_orZero,
      List.take_append_drop, List.length_drop, magnitude]
    congr 2
    omega

end Values

section Reading

variable {format : FloatFormat} {rank : Nat} {s : Scientific}

theorem maxDigits_form (format : FloatFormat) : format.form.maxDigits = format.decimalDigits := by
  cases format <;> rfl

/-- What is written keeps to the form of the format if the digits and the exponent do. -/
theorem literalNumeral_follows (digits : Digits s.digits) (filled : s.digits ≠ [])
    (short : s.digits.length ≤ format.decimalDigits)
    (exponent_lt : s.exponent.natAbs < 10 ^ format.form.maxExponentDigits) :
    (s.literalNumeral format.decimalDigits).Follows format.form := by
  have positive := List.length_pos_iff.2 filled
  have limit := maxDigits_form format
  have digits_pos := format.decimalDigits_pos
  unfold literalNumeral
  split
  next plain =>
    obtain ⟨-, whole_short, fraction_short⟩ := plain
    obtain ⟨whole, fraction⟩ := toPositional_digits digits
    exact ⟨whole, toPositional_filled filled, limit ▸ whole_short, digits_orZero fraction,
      limit ▸ fraction_short, digits_nil, Nat.zero_le _, fun _ => rfl⟩
  next =>
    constructor
    case whole_digits => exact digits.take 1
    case whole_filled =>
      simp only [List.length_take]
      omega
    case whole_short =>
      simp only [List.length_take]
      omega
    case fraction_digits => exact digits_orZero (digits.drop 1)
    case fraction_short =>
      dsimp only
      unfold orZero
      split
      · simp only [List.length_singleton]
        omega
      · simp only [List.length_drop]
        omega
    case exponent_digits => exact digits_toDigits _
    case exponent_short =>
      refine (Nat.length_toDigits_le_iff (by decide) ?_).2 exponent_lt
      cases format <;> decide
    case exponent_signed => exact fun empty => absurd empty Nat.toDigits_ne_nil

/-- The numeral that is written for a rank is rounded to it. -/
theorem Spells.ofNumeral_literalNumeral (spells : Spells format rank s)
    (small : rank < format.rankLimit) :
    Floating.ofNumeral format (s.literalNumeral format.decimalDigits) =
      .finite s.negative ⟨rank, small⟩ := by
  have ratio_pos : 0 < (s.literalNumeral format.decimalDigits).ratio.2 := Nat.pow_pos (by decide)
  rw [Floating.ofNumeral, Floating.nearest,
    spells.leadsBack _ _ ratio_pos (value_literalNumeral _ spells.filled), Floating.ofRank,
    dif_pos small, negative_literalNumeral]

end Reading

end Scientific

namespace FloatingSpelling

variable {format : FloatFormat}

/-- The special words are no numerals. -/
theorem read?_of_numeral {text : List Char} {n : Numeral}
    (read : Numeral.read? format.form text = some n)
    (finite : (Floating.ofNumeral format n).isFinite = true) :
    read? format text = some (number n) := by
  have word (c : Char) (rest : List Char) (letter : c.isDigit = false) :
      Text.readDigits? format.form.maxDigits (c :: rest) = none := by
    simp [readDigits?, letter]
  have notNaN : text ≠ ['N', 'a', 'N'] := by
    rintro rfl
    simp [Numeral.read?, readSign, word] at read
  have notInf : text ≠ ['I', 'N', 'F'] := by
    rintro rfl
    simp [Numeral.read?, readSign, word] at read
  have notNegInf : text ≠ ['-', 'I', 'N', 'F'] := by
    rintro rfl
    simp [Numeral.read?, readSign, word] at read
  rw [FloatingSpelling.read?, if_neg notNaN, if_neg notInf, if_neg notNegInf, read]
  dsimp only
  rw [if_pos finite]

/-- A floating-point number is read back from its literal. -/
theorem read?_literal (x : Floating format) :
    ∃ spelling, read? format x.literal = some spelling ∧ spelling.toFloating format = x := by
  cases x with
  | nan => exact ⟨nan, rfl, rfl⟩
  | infinity negative => cases negative <;> exact ⟨infinity _, rfl, rfl⟩
  | finite negative rank =>
    have spells := Scientific.spells_ofRank negative rank.isLt
    have back := spells.ofNumeral_literalNumeral rank.isLt
    have same : (Scientific.ofRank format negative rank).negative = negative := by
      unfold Scientific.ofRank
      split <;> rfl
    rw [same] at back
    refine ⟨_, read?_of_numeral ?_ ?_, back⟩
    · rw [Floating.literal, Scientific.literal_eq]
      exact Numeral.read?_fullText (Scientific.literalNumeral_follows spells.digits spells.filled
        spells.short spells.exponent_lt)
    · rw [back]
      rfl

end FloatingSpelling

end EntityModel
