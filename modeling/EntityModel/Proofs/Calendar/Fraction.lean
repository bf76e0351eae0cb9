import EntityModel.Proofs.Calendar.Fragment
import EntityModel.Proofs.Outcome

/-!
Fractions of a second and their digits. Digits are read if nothing but zeros stands below the ninth
place, however many there are, and they are read exactly; words of 32 bits hold every number that
comes up on the way. What is written for a fraction is the shortest text that is read as it.
-/

set_option autoImplicit false

namespace EntityModel.Calendar

open EntityModel.Text

section Words

/-- A result that no word of 32 bits holds. -/
structure Overflow where
  number : Nat
  deriving DecidableEq

def toWord (n : Nat) : Except Overflow UInt32 :=
  if n < UInt32.size then .ok (UInt32.ofNat n) else .error ⟨n⟩

/-- Puts one more digit behind a number. -/
def appendDigit (total : UInt32) (digit : Char) : Except Overflow UInt32 := do
  let scaled ← toWord (total.toNat * 10)
  toWord (scaled.toNat + (digit.toNat - '0'.toNat))

/-- The nanoseconds of a fraction, digit by digit and in words: each power, product and sum must be
one. -/
def nanosInWords (digits : List Char) : Except Overflow (Option UInt32) :=
  if digits.all Char.isDigit ∧ (digits.drop 9).all (· == '0') then do
    let total ← (digits.take 9).foldlM appendDigit 0
    let unit ← toWord (10 ^ (9 - (digits.take 9).length))
    let nanos ← toWord (total.toNat * unit.toNat)
    .ok (some nanos)
  else .ok none

variable {digits : List Char} {total n : Nat}

theorem toWord_of_lt (small : n < UInt32.size) : toWord n = .ok (UInt32.ofNat n) := if_pos small

theorem appendDigit_ofNat {c : Char} (digit : c.isDigit = true)
    (small : total * 10 + 9 < UInt32.size) :
    appendDigit (UInt32.ofNat total) c = .ok (UInt32.ofNat (total * 10 + digitsValue [c])) := by
  obtain ⟨d, below, rfl⟩ := exists_digitChar digit
  have value : d.digitChar.toNat - '0'.toNat = d := by
    rw [Nat.toNat_digitChar_of_lt_ten below]
    exact Nat.add_sub_cancel_left _ _
  rw [appendDigit, UInt32.toNat_ofNat_of_lt' (by omega), toWord_of_lt (by omega), ok_bind,
    UInt32.toNat_ofNat_of_lt' (by omega), value, toWord_of_lt (by omega), digitsValue_digitChar below]

/-- A run fits behind a number if nines would fit in its place. -/
theorem foldlM_appendDigit (run : Digits digits)
    (small : (total + 1) * 10 ^ digits.length ≤ UInt32.size) :
    digits.foldlM appendDigit (UInt32.ofNat total) =
      .ok (UInt32.ofNat (total * 10 ^ digits.length + digitsValue digits)) := by
  induction digits generalizing total with
  | nil =>
    rw [List.length_nil, Nat.pow_zero, Nat.mul_one]
    rfl
  | cons c rest ih =>
    obtain ⟨digit, others⟩ := digits_cons_iff.1 run
    have single : Digits [c] := digits_cons_iff.2 ⟨digit, digits_nil⟩
    have below : digitsValue [c] < 10 := single.value_lt
    rw [List.length_cons, Nat.pow_succ'] at small
    have unit_pos : 0 < 10 ^ rest.length := Nat.pow_pos (by decide)
    -- The digit is a nine at most, so the room for the nines of the rest is kept.
    have here : (total + 1) * 10 ≤ UInt32.size := by
      refine (Nat.le_mul_of_pos_right _ unit_pos).trans ?_
      rwa [Nat.mul_assoc]
    have later : (total * 10 + digitsValue [c] + 1) * 10 ^ rest.length ≤ UInt32.size := by
      refine (Nat.mul_le_mul_right _ ?_).trans ((Nat.mul_assoc ..).trans_le small)
      omega
    rw [List.foldlM_cons, appendDigit_ofNat digit (by omega), ok_bind, ih others later,
      digitsValue_cons c rest, List.length_cons, Nat.pow_succ', Nat.add_mul, Nat.mul_assoc,
      Nat.add_assoc]

/-- Nine digits fit. -/
theorem foldlM_appendDigit_zero (run : Digits digits) (short : digits.length ≤ 9) :
    digits.foldlM appendDigit 0 = .ok (UInt32.ofNat (digitsValue digits)) := by
  have nines : (0 + 1) * 10 ^ digits.length ≤ UInt32.size := by
    calc (0 + 1) * 10 ^ digits.length
      _ ≤ 10 ^ 9 := by
        rw [Nat.zero_add, Nat.one_mul]
        exact Nat.pow_le_pow_right (by decide) short
      _ ≤ UInt32.size := by decide
  have appended := foldlM_appendDigit run nines
  rwa [Nat.zero_mul, Nat.zero_add] at appended

/-- No power, product or sum leaves the words, and the outcome is the exact one. -/
theorem toNat_nanosInWords (digits : List Char) :
    (nanosInWords digits).map (Option.map UInt32.toNat) = .ok (nanosOfFraction? digits) := by
  unfold nanosInWords
  split
  · next readable =>
    -- Every number that has to be a word is at most `10 ^ 9`.
    have found : nanosOfFraction? digits = some _ := if_pos readable
    have front := Digits.take (List.all_eq_true.1 readable.1) 9
    have short : (digits.take 9).length ≤ 9 := List.length_take_le 9 digits
    have size : 10 ^ 9 < UInt32.size := by decide
    have unit_le : 10 ^ (9 - (digits.take 9).length) ≤ 10 ^ 9 :=
      Nat.pow_le_pow_right (by decide) (Nat.sub_le ..)
    have kept_lt : digitsValue (digits.take 9) < 10 ^ 9 :=
      front.value_lt.trans_le (Nat.pow_le_pow_right (by decide) short)
    have nanos_lt := nanosOfFraction?_lt found
    rw [nanosPerSecond] at nanos_lt
    rw [foldlM_appendDigit_zero front short, ok_bind, toWord_of_lt (unit_le.trans_lt size), ok_bind,
      UInt32.toNat_ofNat_of_lt' (kept_lt.trans size),
      UInt32.toNat_ofNat_of_lt' (unit_le.trans_lt size), toWord_of_lt (nanos_lt.trans size),
      ok_bind, found, Except.map, Option.map_some,
      UInt32.toNat_ofNat_of_lt' (nanos_lt.trans size)]
  · next refused =>
    rw [nanosOfFraction?, if_neg refused]
    rfl

end Words

section Digits

theorem exists_nanosOfFraction?_iff {digits : List Char} :
    (∃ nanos, nanosOfFraction? digits = some nanos) ↔
      Digits digits ∧ ∀ c ∈ digits.drop 9, c = '0' :=
  ⟨fun ⟨_, found⟩ => ⟨digits_of_nanosOfFraction? found, zeros_of_nanosOfFraction? found⟩,
    fun ⟨run, zeros⟩ => exists_nanosOfFraction? run zeros⟩

theorem nanosOfFraction?_eq_some_iff {digits : List Char} {nanos : Nat} :
    nanosOfFraction? digits = some nanos ↔
      Digits digits ∧ nanos * 10 ^ digits.length = digitsValue digits * nanosPerSecond :=
  ⟨fun found => ⟨digits_of_nanosOfFraction? found, nanosOfFraction?_value found⟩,
    fun ⟨run, value⟩ => nanosOfFraction?_of_value run value⟩

/-- The digits are read as a number of nanoseconds, and all others that are so are longer. -/
def IsShortestFor (nanos : Nat) (digits : List Char) : Prop :=
  nanosOfFraction? digits = some nanos ∧
    ∀ other, nanosOfFraction? other = some nanos → other = digits ∨ digits.length < other.length

theorem isShortestFor_fractionDigits {nanos : Nat} (small : nanos < nanosPerSecond) :
    IsShortestFor nanos (fractionDigits nanos) := by
  refine ⟨nanosOfFraction?_fractionDigits small, fun other found => ?_⟩
  obtain ⟨count, rfl⟩ := (nanosOfFraction?_eq_some_iff_zeros small).1 found
  cases count with
  | zero => exact .inl (List.append_nil _)
  | succ count =>
    right
    rw [List.length_append, List.length_replicate]
    omega

/-- Digits are read exactly if they are ASCII digits with zeros alone below the ninth place. The
number is the one that they denote, and in words it comes out as well. A fraction of a second that is
not zero is written as a point and the shortest digits for it. -/
theorem fractions_exactly :
    (∀ text : String,
      ((∃ nanos, nanosOfFraction? text.toList = some nanos) ↔
        Digits text.toList ∧ ∀ c ∈ text.toList.drop 9, c = '0') ∧
      (∀ nanos, nanosOfFraction? text.toList = some nanos ↔
        Digits text.toList ∧ nanos * 10 ^ text.length = digitsValue text.toList * 10 ^ 9) ∧
      (nanosInWords text.toList).map (Option.map UInt32.toNat) =
        .ok (nanosOfFraction? text.toList)) ∧
    ∀ nanos, 0 < nanos → nanos < 10 ^ 9 → ∃ digits, writeFraction nanos = '.' :: digits ∧
      IsShortestFor nanos digits ∧ 1 ≤ digits.length ∧ digits.length ≤ 9 ∧
      digits.getLast? ≠ some '0' := by
  refine ⟨fun text => ⟨exists_nanosOfFraction?_iff, fun nanos => ?_, toNat_nanosInWords _⟩,
    fun nanos positive small => ⟨fractionDigits nanos, ?_, ?_, ?_, ?_, ?_⟩⟩
  · rw [nanosOfFraction?_eq_some_iff, String.length_toList, nanosPerSecond]
  · exact if_neg positive.ne'
  · exact isShortestFor_fractionDigits small
  · exact List.length_pos_iff.2 (fractionDigits_ne_nil small positive.ne')
  · exact length_fractionDigits_le small
  · exact getLast?_trimRight_ne _

/-- An eighth of a second, with three zeros below the nanoseconds. -/
theorem fractions_exactly_eighth :
    Digits "125000000000".toList ∧ (∀ c ∈ "125000000000".toList.drop 9, c = '0') ∧
    nanosOfFraction? "125000000000".toList = some 125000000 ∧
    0 < 125000000 ∧ 125000000 < 10 ^ 9 ∧ IsShortestFor 125000000 "125".toList := by
  obtain ⟨reading, writing⟩ := fractions_exactly
  have run : Digits "125000000000".toList := List.all_eq_true.1 (by decide)
  have read := ((reading "125000000000").2.1 125000000).2 ⟨run, by decide⟩
  refine ⟨run, ((reading "125000000000").1.1 ⟨_, read⟩).2, read, by decide, by decide, ?_⟩
  obtain ⟨digits, written, shortest, -⟩ := writing 125000000 (by decide) (by decide)
  have tail : writeFraction 125000000 = '.' :: "125".toList := by decide
  rwa [(List.cons.inj (written.symm.trans tail)).2] at shortest

end Digits

end EntityModel.Calendar
