import EntityModel.Text.Digits
import Mathlib.Data.List.TakeWhile

/-!
Runs of digits and the numbers they denote. A run of known length is determined by its number, and
a reader that meets a run followed by anything else takes exactly the run. A single character is
read in the same way.
-/

set_option autoImplicit false

namespace EntityModel.Text

/-- The text consists of digits. -/
def Digits (text : List Char) : Prop := ∀ c ∈ text, c.isDigit = true

/-- The text does not go on with a digit. -/
def Breaks (text : List Char) : Prop := ∀ c ∈ text.head?, c.isDigit = false

section Membership

variable {first second text : List Char}

@[simp] theorem digits_nil : Digits [] := by simp [Digits]

@[simp] theorem digits_cons_iff {c : Char} :
    Digits (c :: text) ↔ c.isDigit = true ∧ Digits text := by
  simp [Digits]

@[simp] theorem digits_append_iff : Digits (first ++ second) ↔ Digits first ∧ Digits second :=
  List.forall_mem_append

theorem digits_toDigits (n : Nat) : Digits (Nat.toDigits 10 n) :=
  fun _ mem => Nat.isDigit_of_mem_toDigits (by decide) (by decide) mem

@[simp] theorem digits_replicate_zero (count : Nat) : Digits (List.replicate count '0') := by
  intro c mem
  rw [(List.mem_replicate.1 mem).2]
  rfl

theorem digits_padded (width n : Nat) : Digits (padded width n) :=
  digits_append_iff.2 ⟨digits_replicate_zero _, digits_toDigits n⟩

theorem Digits.take (digits : Digits text) (count : Nat) : Digits (text.take count) :=
  fun _ mem => digits _ (List.mem_of_mem_take mem)

theorem Digits.drop (digits : Digits text) (count : Nat) : Digits (text.drop count) :=
  fun _ mem => digits _ (List.mem_of_mem_drop mem)

theorem digits_takeWhile (text : List Char) : Digits (text.takeWhile Char.isDigit) :=
  fun _ mem => List.mem_takeWhile_imp mem

theorem breaks_nil : Breaks [] := by simp [Breaks]

theorem breaks_cons {c : Char} (other : c.isDigit = false) (text : List Char) :
    Breaks (c :: text) := by
  simpa [Breaks] using other

/-- A digit is the digit of a number below ten. -/
theorem exists_digitChar {c : Char} (digit : c.isDigit = true) : ∃ n < 10, c = n.digitChar := by
  simp only [Char.isDigit, Bool.and_eq_true, decide_eq_true_eq] at digit
  have ge : 48 ≤ c.toNat := UInt32.le_iff_toNat_le.1 digit.1
  have le : c.toNat ≤ 57 := UInt32.le_iff_toNat_le.1 digit.2
  refine ⟨c.toNat - 48, by omega, Char.toNat_inj.1 ?_⟩
  rw [Nat.toNat_digitChar_of_lt_ten (by omega)]
  omega

end Membership

section Value

variable {first second text : List Char}

theorem digitsValue_append (first second : List Char) :
    digitsValue (first ++ second) =
      digitsValue first * 10 ^ second.length + digitsValue second := by
  rw [digitsValue, Nat.ofDigitChars_append, Nat.ofDigitChars_eq_ofDigitChars_zero, digitsValue,
    digitsValue, Nat.mul_comm]

@[simp] theorem digitsValue_replicate (count : Nat) :
    digitsValue (List.replicate count '0') = 0 := by
  rw [← List.append_nil (List.replicate count '0'), digitsValue_zeros]
  rfl

theorem digitsValue_cons (c : Char) (text : List Char) :
    digitsValue (c :: text) = digitsValue [c] * 10 ^ text.length + digitsValue text :=
  digitsValue_append [c] text

theorem digitsValue_digitChar {n : Nat} (small : n < 10) : digitsValue [n.digitChar] = n := by
  rw [← Nat.toDigits_of_lt_base small, digitsValue_toDigits]

theorem Digits.value_lt (digits : Digits text) : digitsValue text < 10 ^ text.length := by
  induction text with
  | nil => decide
  | cons c text ih =>
    obtain ⟨digit, others⟩ := digits_cons_iff.1 digits
    obtain ⟨n, small, rfl⟩ := exists_digitChar digit
    have below := ih others
    rw [digitsValue_cons, digitsValue_digitChar small, List.length_cons, Nat.pow_succ]
    have le : n * 10 ^ text.length ≤ 9 * 10 ^ text.length := Nat.mul_le_mul_right _ (by omega)
    omega

/-- Quotient and remainder are unique. -/
theorem quotient_unique {m n r t unit : Nat} (r_lt : r < unit) (t_lt : t < unit)
    (same : m * unit + r = n * unit + t) : m = n ∧ r = t := by
  have quotient (k : Nat) {below : Nat} (lt : below < unit) : (k * unit + below) / unit = k := by
    rw [Nat.mul_comm, Nat.mul_add_div (Nat.zero_lt_of_lt lt), Nat.div_eq_of_lt lt, Nat.add_zero]
  have lead : m = n := by rw [← quotient m r_lt, same, quotient n t_lt]
  subst lead
  exact ⟨rfl, by omega⟩

/-- Two runs of one length that denote the same number are the same run. -/
theorem Digits.eq_of_value (one : Digits first) (other : Digits second)
    (length : first.length = second.length) (value : digitsValue first = digitsValue second) :
    first = second := by
  induction first generalizing second with
  | nil => exact (List.length_eq_zero_iff.1 length.symm).symm
  | cons c first ih =>
    cases second with
    | nil => simp at length
    | cons d second =>
      obtain ⟨cDigit, firstDigits⟩ := digits_cons_iff.1 one
      obtain ⟨dDigit, secondDigits⟩ := digits_cons_iff.1 other
      obtain ⟨m, mSmall, rfl⟩ := exists_digitChar cDigit
      obtain ⟨n, nSmall, rfl⟩ := exists_digitChar dDigit
      have lengths : first.length = second.length := Nat.succ_injective length
      -- The first digits are the quotients by one power of ten, the other digits the remainders.
      rw [digitsValue_cons, digitsValue_cons n.digitChar, digitsValue_digitChar mSmall,
        digitsValue_digitChar nSmall, lengths] at value
      have firstBelow := firstDigits.value_lt
      have secondBelow := secondDigits.value_lt
      rw [lengths] at firstBelow
      obtain ⟨rfl, tails⟩ := quotient_unique firstBelow secondBelow value
      rw [ih firstDigits secondDigits lengths tails]

end Value

section Padding

theorem length_padded (width n : Nat) :
    (padded width n).length = max width (Nat.toDigits 10 n).length := by
  simp only [padded, List.length_append, List.length_replicate]
  omega

theorem length_padded_of_lt {width n : Nat} (positive : 0 < width) (below : n < 10 ^ width) :
    (padded width n).length = width := by
  have short := (Nat.length_toDigits_le_iff (by decide) positive).2 below
  rw [length_padded]
  omega

end Padding

section Trimming

variable {text : List Char}

/-- Without the zeros in front a run has as many digits as its number needs. -/
theorem Digits.length_trimLeft_le_iff (digits : Digits text) {count : Nat} :
    (trimLeft text).length ≤ count ↔ digitsValue text < 10 ^ count := by
  induction text with
  | nil => exact iff_of_true (Nat.zero_le _) (Nat.pow_pos (by decide))
  | cons c text ih =>
    obtain ⟨digit, others⟩ := digits_cons_iff.1 digits
    obtain ⟨n, small, rfl⟩ := exists_digitChar digit
    by_cases zero : n = 0
    · subst zero
      have shorter : trimLeft (Nat.digitChar 0 :: text) = trimLeft text := rfl
      have same : digitsValue (Nat.digitChar 0 :: text) = digitsValue text :=
        digitsValue_zeros 1 text
      rw [shorter, same, ih others]
    · have nonzero : n.digitChar ≠ '0' := by
        intro same
        have value := digitsValue_digitChar small
        rw [same] at value
        exact zero value.symm
      have kept : trimLeft (n.digitChar :: text) = n.digitChar :: text :=
        List.dropWhile_cons_of_neg (by simpa using nonzero)
      have below := digits.value_lt
      rw [kept, List.length_cons] at *
      constructor
      · intro short
        exact Nat.lt_of_lt_of_le below (Nat.pow_le_pow_right (by decide) short)
      · intro value_lt
        rw [digitsValue_cons, digitsValue_digitChar small] at value_lt
        have least : 1 * 10 ^ text.length ≤ n * 10 ^ text.length :=
          Nat.mul_le_mul_right _ (Nat.pos_of_ne_zero zero)
        have less : 10 ^ text.length < 10 ^ count := by omega
        exact (Nat.pow_lt_pow_iff_right (by decide)).1 less

theorem trimRight_append_zeros (text : List Char) (count : Nat) :
    trimRight (text ++ List.replicate count '0') = trimRight text := by
  unfold trimRight
  rw [List.reverse_append, List.reverse_replicate, List.dropWhile_append_of_pos]
  intro c mem
  simp [(List.mem_replicate.1 mem).2]

/-- What is trimmed at the end is zeros. -/
theorem exists_zeros (text : List Char) :
    ∃ count, text = trimRight text ++ List.replicate count '0' := by
  have zeros : text.reverse.takeWhile (· == '0') =
      List.replicate (text.reverse.takeWhile (· == '0')).length '0' := by
    refine List.eq_replicate_of_mem fun c mem => ?_
    simpa using List.mem_takeWhile_imp mem
  refine ⟨(text.reverse.takeWhile (· == '0')).length, ?_⟩
  rw [← List.reverse_inj, trimRight, List.reverse_append, List.reverse_reverse,
    List.reverse_replicate, ← zeros, List.takeWhile_append_dropWhile]

theorem length_trimRight_le (text : List Char) : (trimRight text).length ≤ text.length := by
  obtain ⟨count, same⟩ := exists_zeros text
  have length := congrArg List.length same
  simp only [List.length_append] at length
  omega

theorem Digits.trimRight (digits : Digits text) : Digits (trimRight text) := by
  obtain ⟨count, same⟩ := exists_zeros text
  rw [same] at digits
  exact (digits_append_iff.1 digits).1

@[simp] theorem trimRight_trimRight (text : List Char) :
    trimRight (trimRight text) = trimRight text := by
  obtain ⟨count, same⟩ := exists_zeros text
  rw [← trimRight_append_zeros (Text.trimRight text) count, ← same]

/-- A trimmed text has no zero at its end. -/
theorem getLast?_trimRight_ne (text : List Char) : (trimRight text).getLast? ≠ some '0' := by
  intro last
  rw [Text.trimRight, List.getLast?_reverse] at last
  have kept := List.head?_dropWhile_not (· == '0') text.reverse
  rw [last] at kept
  cases kept

/-- Two runs after a point denote one fraction only if they are the same but for zeros at the end.
-/
theorem Digits.trimRight_eq_of_value {first second : List Char} (one : Digits first)
    (other : Digits second)
    (value : digitsValue first * 10 ^ second.length = digitsValue second * 10 ^ first.length) :
    Text.trimRight first = Text.trimRight second := by
  -- With as many zeros as the other one has digits, both are equally long.
  have same : first ++ List.replicate second.length '0' =
      second ++ List.replicate first.length '0' := by
    refine Digits.eq_of_value (by simpa using one) (by simpa using other) ?_ ?_
    · simp only [List.length_append, List.length_replicate, Nat.add_comm]
    · simpa only [digitsValue_append, digitsValue_replicate, List.length_replicate, Nat.add_zero]
        using value
  rw [← trimRight_append_zeros first second.length, same, trimRight_append_zeros]

/-- The number of a run is that of the trimmed run, moved by the zeros. -/
theorem digitsValue_trimRight (text : List Char) :
    digitsValue text =
      digitsValue (trimRight text) * 10 ^ (text.length - (trimRight text).length) := by
  obtain ⟨count, same⟩ := exists_zeros text
  have length := congrArg List.length same
  simp only [List.length_append, List.length_replicate] at length
  rw [length, Nat.add_sub_cancel_left]
  calc digitsValue text
    _ = digitsValue (Text.trimRight text ++ List.replicate count '0') := congrArg _ same
    _ = digitsValue (Text.trimRight text) * 10 ^ count := by
      rw [digitsValue_append, digitsValue_replicate, List.length_replicate, Nat.add_zero]

/-- A trimmed run does not end in a zero. -/
theorem trimRight_eq_nil_or (digits : Digits text) :
    trimRight text = [] ∨ digitsValue (trimRight text) % 10 ≠ 0 := by
  rcases List.eq_nil_or_concat (Text.trimRight text) with empty | ⟨start, last, found⟩
  · exact .inl empty
  · right
    have trimmed := digits.trimRight
    rw [List.concat_eq_append] at found
    rw [found] at trimmed ⊢
    obtain ⟨n, small, rfl⟩ := exists_digitChar (digits_cons_iff.1 (digits_append_iff.1 trimmed).2).1
    have nonzero : n ≠ 0 := by
      rintro rfl
      refine getLast?_trimRight_ne text ?_
      rw [found, List.getLast?_concat]
      rfl
    rw [digitsValue_append, digitsValue_digitChar small, List.length_singleton]
    omega

/-- Nor does the trimmed run with more digits in front. -/
theorem Digits.trimRight_mod_ne (digits : Digits text) (front : List Char) :
    (Text.trimRight text).length = 0 ∨ digitsValue (front ++ Text.trimRight text) % 10 ≠ 0 := by
  rcases trimRight_eq_nil_or digits with empty | nonzero
  · exact .inl (by rw [empty, List.length_nil])
  · right
    rw [digitsValue_append]
    cases length : (Text.trimRight text).length with
    | zero =>
      rw [List.length_eq_zero_iff.1 length] at nonzero
      exact absurd rfl nonzero
    | succ count =>
      rw [Nat.pow_succ, ← Nat.mul_assoc]
      omega

end Trimming

section Reading

variable {text rest : List Char}

theorem Digits.takeWhile_append (digits : Digits text) (broken : Breaks rest) :
    (text ++ rest).takeWhile Char.isDigit = text := by
  rw [List.takeWhile_append_of_pos digits]
  cases rest with
  | nil => simp
  | cons c rest => simp [broken c rfl]

theorem Digits.dropWhile_append (digits : Digits text) (broken : Breaks rest) :
    (text ++ rest).dropWhile Char.isDigit = rest := by
  rw [List.dropWhile_append_of_pos digits]
  cases rest with
  | nil => simp
  | cons c rest => simp [broken c rfl]

theorem readDigits?_append {limit : Nat} (digits : Digits text) (broken : Breaks rest)
    (filled : 1 ≤ text.length) (short : text.length ≤ limit) :
    readDigits? limit (text ++ rest) = some (text, rest) := by
  simp only [readDigits?, digits.takeWhile_append broken, digits.dropWhile_append broken]
  rw [if_pos ⟨filled, short⟩]

/-- What `readDigits?` takes is a run of digits of allowed length from the front. -/
theorem readDigits?_eq_some {limit : Nat} {digits : List Char}
    (found : readDigits? limit text = some (digits, rest)) :
    text = digits ++ rest ∧ Digits digits ∧ 1 ≤ digits.length ∧ digits.length ≤ limit := by
  unfold readDigits? at found
  dsimp only at found
  split at found
  · next lengths =>
    cases found
    exact ⟨List.takeWhile_append_dropWhile.symm, digits_takeWhile _, lengths⟩
  · cases found

theorem readChar?_eq_some_iff {c : Char} : readChar? c text = some rest ↔ text = c :: rest := by
  cases text <;> simp [readChar?]

theorem readChar?_eq_none_iff {c : Char} : readChar? c text = none ↔ text.head? ≠ some c := by
  cases text <;> simp [readChar?]

@[simp] theorem readChar?_cons (c : Char) (rest : List Char) :
    readChar? c (c :: rest) = some rest :=
  readChar?_eq_some_iff.2 rfl

/-- A digit is no sign. -/
theorem readSign_cons {c : Char} (digit : c.isDigit = true) (rest : List Char) :
    readSign (c :: rest) = (false, c :: rest) := by
  unfold readSign
  split
  · next same =>
    obtain ⟨rfl, -⟩ := List.cons.inj same
    exact absurd digit (by decide)
  · next same =>
    obtain ⟨rfl, -⟩ := List.cons.inj same
    exact absurd digit (by decide)
  · rfl

theorem Digits.readSign_append (digits : Digits text) (filled : text ≠ []) (rest : List Char) :
    readSign (text ++ rest) = (false, text ++ rest) := by
  cases text with
  | nil => exact absurd rfl filled
  | cons c text => exact readSign_cons (digits_cons_iff.1 digits).1 _

theorem Digits.readSign (digits : Digits text) : readSign text = (false, text) := by
  cases text with
  | nil => rfl
  | cons c text => exact readSign_cons (digits_cons_iff.1 digits).1 text

theorem readInteger?_integer (n : Int) : readInteger? (integer n) = some n := by
  have digits := digits_toDigits n.natAbs
  have all : (Nat.toDigits 10 n.natAbs).all Char.isDigit = true := List.all_eq_true.2 digits
  unfold readInteger? integer
  by_cases negative : n < 0
  · simp only [negative, if_true, Text.readSign, Nat.toDigits_ne_nil, ne_eq, not_false_eq_true,
      all, and_self, digitsValue_toDigits]
    rw [Option.some_inj]
    omega
  · simp only [negative, if_false, digits.readSign, Nat.toDigits_ne_nil, ne_eq, not_false_eq_true,
      all, and_self, if_true, digitsValue_toDigits, Bool.false_eq_true]
    rw [Option.some_inj]
    omega

end Reading

end EntityModel.Text
