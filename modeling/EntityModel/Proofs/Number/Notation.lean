import EntityModel.Number.Numeral
import EntityModel.Proofs.Text.Digits

/-!
How numbers are written. Relations say which texts stand for a sign, a whole number, a fraction, an
exponent and a numeral, without a word about reading. A text stands for one numeral at most, and the
reader finds it exactly if it keeps to the form.
-/

set_option autoImplicit false

namespace EntityModel

namespace Text

variable {negative : Bool} {sign digits rest text : List Char}

/-- A plus sign may be left out. -/
inductive SignText : Bool → List Char → Prop where
  | omitted : SignText false []
  | plus : SignText false ['+']
  | minus : SignText true ['-']

theorem SignText.readSign_append (written : SignText negative sign) (run : Digits digits)
    (filled : digits ≠ []) (rest : List Char) :
    readSign (sign ++ (digits ++ rest)) = (negative, digits ++ rest) := by
  cases written with
  | omitted => exact run.readSign_append filled rest
  | plus => rfl
  | minus => rfl

theorem exists_signText (read : readSign text = (negative, rest)) :
    ∃ sign, SignText negative sign ∧ text = sign ++ rest := by
  unfold readSign at read
  split at read <;> cases read
  · exact ⟨_, .minus, rfl⟩
  · exact ⟨_, .plus, rfl⟩
  · exact ⟨_, .omitted, rfl⟩

/-- A whole number has digits and perhaps a sign. -/
inductive IntegerText : Int → List Char → Prop where
  | intro {negative : Bool} {sign digits : List Char} : SignText negative sign → Digits digits →
      digits ≠ [] →
      IntegerText (if negative then -(digitsValue digits : Int) else digitsValue digits)
        (sign ++ digits)

theorem IntegerText.ne_nil {n : Int} (written : IntegerText n text) : text ≠ [] := by
  cases written with
  | intro _ _ filled => simp [filled]

/-- A whole number is read from the texts that stand for it, and from nothing else. -/
theorem readInteger?_eq_some_iff {n : Int} : readInteger? text = some n ↔ IntegerText n text := by
  constructor
  · intro read
    cases signed : readSign text with
    | mk negative digits =>
      obtain ⟨sign, written, rfl⟩ := exists_signText signed
      rw [readInteger?, signed, Option.ite_none_right_eq_some] at read
      obtain ⟨⟨filled, run⟩, same⟩ := read
      rw [← Option.some.inj same]
      exact .intro written (List.all_eq_true.1 run) filled
  · rintro ⟨written, run, filled⟩
    have found := written.readSign_append run filled []
    rw [List.append_nil] at found
    rw [readInteger?, found]
    exact if_pos ⟨filled, List.all_eq_true.2 run⟩

theorem integerText_integer (n : Int) : IntegerText n (integer n) :=
  readInteger?_eq_some_iff.1 (readInteger?_integer n)

end Text

namespace Numeral

open EntityModel.Text

/-- A fraction has digits after its point or is left out together with the point. -/
inductive FractionText : List Char → List Char → Prop where
  | omitted : FractionText [] []
  | point {digits : List Char} : Digits digits → digits ≠ [] → FractionText digits ('.' :: digits)

/-- An exponent has a mark and digits or is left out. -/
inductive ExponentText : Bool → List Char → List Char → Prop where
  | omitted : ExponentText false [] []
  | mark {negative : Bool} {mark : Char} {sign digits : List Char} : mark = 'e' ∨ mark = 'E' →
      SignText negative sign → Digits digits → digits ≠ [] →
      ExponentText negative digits (mark :: (sign ++ digits))

/-- The texts that stand for a numeral, with parts of any length. -/
inductive WrittenAs (n : Numeral) : List Char → Prop where
  | intro {sign point power : List Char} : SignText n.negative sign → Digits n.whole →
      n.whole ≠ [] → FractionText n.fraction point →
      ExponentText n.exponentNegative n.exponentDigits power →
      WrittenAs n (sign ++ (n.whole ++ (point ++ power)))

/-- The numeral consists of digits and keeps to a form. -/
structure Follows (form : NumeralForm) (n : Numeral) : Prop where
  whole_digits : Digits n.whole
  whole_filled : 1 ≤ n.whole.length
  whole_short : n.whole.length ≤ form.maxDigits
  fraction_digits : Digits n.fraction
  fraction_short : n.fraction.length ≤ form.maxDigits
  exponent_digits : Digits n.exponentDigits
  exponent_short : n.exponentDigits.length ≤ form.maxExponentDigits
  exponent_signed : n.exponentDigits = [] → n.exponentNegative = false

variable {form : NumeralForm} {limit : Nat} {n : Numeral} {negative : Bool}
  {digits point power rest text : List Char}

section Parts

theorem FractionText.run (written : FractionText digits point) : Digits digits := by
  cases written with
  | omitted => exact digits_nil
  | point run => exact run

theorem ExponentText.run (written : ExponentText negative digits power) : Digits digits := by
  cases written with
  | omitted => exact digits_nil
  | mark _ _ run => exact run

theorem ExponentText.signed (written : ExponentText negative digits power) (empty : digits = []) :
    negative = false := by
  cases written with
  | omitted => rfl
  | mark _ _ _ filled => exact absurd empty filled

/-- An exponent begins with its mark, which is neither a digit nor a point. -/
theorem ExponentText.breaks (written : ExponentText negative digits power) :
    Breaks power ∧ power.head? ≠ some '.' := by
  cases written with
  | omitted => exact ⟨breaks_nil, nofun⟩
  | mark marked =>
    rcases marked with rfl | rfl <;> exact ⟨breaks_cons rfl _, by simp⟩

theorem FractionText.length_le (written : FractionText digits point) :
    digits.length ≤ point.length := by
  cases written <;> simp

theorem ExponentText.length_le (written : ExponentText negative digits power) :
    digits.length ≤ power.length := by
  cases written with
  | omitted => exact Nat.le_refl _
  | mark =>
    simp only [List.length_cons, List.length_append]
    omega

theorem FractionText.breaks (written : FractionText digits point) (broken : Breaks rest) :
    Breaks (point ++ rest) := by
  cases written with
  | omitted => exact broken
  | point => exact breaks_cons rfl _

end Parts

section Reading

theorem FractionText.read (written : FractionText digits point) (short : digits.length ≤ limit)
    (broken : Breaks rest) (noPoint : rest.head? ≠ some '.') :
    readFraction? limit (point ++ rest) = some (digits, rest) := by
  cases written with
  | omitted =>
    unfold readFraction?
    split
    · next same =>
      subst same
      exact absurd rfl noPoint
    · rfl
  | point run filled => exact readDigits?_append run broken (List.length_pos_iff.2 filled) short

theorem exists_fractionText (read : readFraction? limit text = some (digits, rest)) :
    ∃ point, FractionText digits point ∧ digits.length ≤ limit ∧ text = point ++ rest := by
  unfold readFraction? at read
  split at read
  · obtain ⟨rfl, run, filled, short⟩ := readDigits?_eq_some read
    exact ⟨_, .point run (List.length_pos_iff.1 filled), short, rfl⟩
  · cases read
    exact ⟨[], .omitted, Nat.zero_le _, rfl⟩

theorem ExponentText.read (written : ExponentText negative digits power)
    (short : digits.length ≤ limit) : readExponent? limit power = some (negative, digits) := by
  cases written with
  | omitted => rfl
  | mark marked sign run filled =>
    have signed := sign.readSign_append run filled []
    have found := readDigits?_append run breaks_nil (List.length_pos_iff.2 filled) short
    simp only [List.append_nil] at signed found
    simp only [readExponent?, if_pos marked, signed, found]

theorem exponentText_of_read (read : readExponent? limit text = some (negative, digits)) :
    ExponentText negative digits text ∧ digits.length ≤ limit := by
  unfold readExponent? at read
  split at read
  · cases read
    exact ⟨.omitted, Nat.zero_le _⟩
  next mark rest =>
  split at read
  · next marked =>
    dsimp only at read
    cases signed : readSign rest with
    | mk negative' unsigned =>
    obtain ⟨sign, written, parts⟩ := exists_signText signed
    rw [signed] at read
    dsimp only at read
    split at read
    · next found =>
      cases read
      obtain ⟨same, run, filled, short⟩ := readDigits?_eq_some found
      rw [List.append_nil] at same
      rw [parts, same]
      exact ⟨.mark marked written run (List.length_pos_iff.1 filled), short⟩
    · cases read
  · cases read

/-- A numeral is read exactly from the texts that stand for it, if it keeps to the form. -/
theorem read?_eq_some_iff : read? form text = some n ↔ n.WrittenAs text ∧ n.Follows form := by
  constructor
  · intro read
    -- Each part is read from what the part before it has left.
    cases signed : readSign text with
    | mk negative unsigned =>
    obtain ⟨sign, written, parts⟩ := exists_signText signed
    rw [read?, signed] at read
    obtain ⟨⟨whole, afterWhole⟩, whole_read, read⟩ := Option.bind_eq_some_iff.1 read
    obtain ⟨⟨fraction, power⟩, fraction_read, read⟩ := Option.bind_eq_some_iff.1 read
    obtain ⟨⟨powerNegative, digits⟩, exponent_read, read⟩ := Option.bind_eq_some_iff.1 read
    cases read
    obtain ⟨whole_parts, whole_digits, whole_filled, whole_short⟩ := readDigits?_eq_some whole_read
    obtain ⟨point, pointed, fraction_short, fraction_parts⟩ := exists_fractionText fraction_read
    obtain ⟨raised, exponent_short⟩ := exponentText_of_read exponent_read
    rw [whole_parts, fraction_parts] at parts
    rw [parts]
    exact ⟨.intro written whole_digits (List.length_pos_iff.1 whole_filled) pointed raised,
      whole_digits, whole_filled, whole_short, pointed.run, fraction_short, raised.run,
      exponent_short, raised.signed⟩
  · rintro ⟨written, follows⟩
    cases written with
    | intro signed whole_digits whole_filled pointed raised =>
      -- A point or a mark ends the digits before it, so no part takes anything from the next.
      obtain ⟨broken, noPoint⟩ := raised.breaks
      have whole_read := readDigits?_append whole_digits (pointed.breaks broken)
        follows.whole_filled follows.whole_short
      simp only [read?, signed.readSign_append whole_digits whole_filled, whole_read,
        pointed.read follows.fraction_short broken noPoint, raised.read follows.exponent_short,
        Option.bind_eq_bind, Option.bind_some, Option.pure_def]

/-- What is read keeps to the form. -/
theorem read?_follows (read : read? form text = some n) : Follows form n :=
  (read?_eq_some_iff.1 read).2

theorem WrittenAs.follows (written : n.WrittenAs text) :
    n.Follows ⟨text.length, text.length⟩ := by
  cases written with
  | intro signed whole_digits whole_filled pointed raised =>
    have filled := List.length_pos_iff.2 whole_filled
    constructor
    case whole_digits => exact whole_digits
    case fraction_digits => exact pointed.run
    case exponent_digits => exact raised.run
    case exponent_signed => exact raised.signed
    case whole_filled => exact filled
    case whole_short =>
      simp only [List.length_append]
      omega
    case fraction_short =>
      have le := pointed.length_le
      simp only [List.length_append]
      omega
    case exponent_short =>
      have le := raised.length_le
      simp only [List.length_append]
      omega

/-- A text stands for one numeral at most. -/
theorem WrittenAs.unique {m : Numeral} (one : n.WrittenAs text) (other : m.WrittenAs text) :
    n = m := by
  -- The reader finds both if the form leaves room for the whole text in each part.
  have same := (read?_eq_some_iff.2 ⟨one, one.follows⟩).symm.trans
    (read?_eq_some_iff.2 ⟨other, other.follows⟩)
  exact Option.some.inj same

/-- A form without exponents leaves no exponent. -/
theorem Follows.exponent_eq_zero (follows : Follows form n) (plain : form.maxExponentDigits = 0) :
    n.exponent = 0 := by
  have short := follows.exponent_short
  rw [plain] at short
  have empty : n.exponentDigits = [] := List.length_eq_zero_iff.1 (Nat.le_zero.1 short)
  rw [exponent, empty]
  split <;> rfl

end Reading

end Numeral

end EntityModel
