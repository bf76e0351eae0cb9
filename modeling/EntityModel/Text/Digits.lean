/-!
Decimal digits in text: reading runs of ASCII digits and writing numbers. Digits of other scripts
are no digits here.
-/

set_option autoImplicit false

namespace EntityModel.Text

/-- The number that a run of digits denotes, zero for the empty run. -/
def digitsValue (digits : List Char) : Nat := Nat.ofDigitChars 10 digits 0

/-- The decimal digits of a number, with zeros on the left up to the given width. -/
def padded (width n : Nat) : List Char :=
  List.replicate (width - (Nat.toDigits 10 n).length) '0' ++ Nat.toDigits 10 n

@[simp] theorem digitsValue_toDigits (n : Nat) : digitsValue (Nat.toDigits 10 n) = n :=
  Nat.ofDigitChars_ten_toDigits

/-- Zeros in front do not count. -/
theorem digitsValue_zeros (count : Nat) (digits : List Char) :
    digitsValue (List.replicate count '0' ++ digits) = digitsValue digits := by
  induction count with
  | zero => rfl
  | succ count ih => simpa [List.replicate_succ, digitsValue, Nat.ofDigitChars] using ih

@[simp] theorem digitsValue_padded (width n : Nat) : digitsValue (padded width n) = n := by
  rw [padded, digitsValue_zeros, digitsValue_toDigits]

/-- A whole number, with a minus sign when it is negative. -/
def integer (n : Int) : List Char :=
  if n < 0 then '-' :: Nat.toDigits 10 n.natAbs else Nat.toDigits 10 n.natAbs

/-- A whole number with zeros up to the given width, in which a minus sign counts. -/
def signedPadded (width : Nat) (n : Int) : List Char :=
  if n < 0 then '-' :: padded (width - 1) n.natAbs else padded width n.natAbs

theorem signedPadded_natCast (width n : Nat) : signedPadded width n = padded width n :=
  if_neg (Int.not_lt.2 (Int.natCast_nonneg n))

/-- The digits without the zeros in front. -/
def trimLeft (digits : List Char) : List Char := digits.dropWhile (· == '0')

/-- The digits without the zeros at the end. -/
def trimRight (digits : List Char) : List Char := (digits.reverse.dropWhile (· == '0')).reverse

/-- Splits off a sign in front; without one the text counts as positive. -/
def readSign : List Char → Bool × List Char
  | '-' :: rest => (true, rest)
  | '+' :: rest => (false, rest)
  | text => (false, text)

/-- Splits off the run of digits in front, which must hold between one and `limit` digits. -/
def readDigits? (limit : Nat) (text : List Char) : Option (List Char × List Char) :=
  let digits := text.takeWhile Char.isDigit
  if 1 ≤ digits.length ∧ digits.length ≤ limit then some (digits, text.dropWhile Char.isDigit)
  else none

/-- Reads an optionally signed run of digits of any length as a whole number. -/
def readInteger? (text : List Char) : Option Int :=
  let (negative, digits) := readSign text
  if digits ≠ [] ∧ digits.all Char.isDigit then
    some (if negative then -(digitsValue digits : Int) else digitsValue digits)
  else none

/-- Splits off the given character in front. -/
def readChar? (c : Char) : List Char → Option (List Char)
  | [] => none
  | first :: rest => if first = c then some rest else none

/-- What stands between the opening text and a single quote at the end. -/
def enclosed? : (opening text : List Char) → Option (List Char)
  | [], text => if text.getLast? = some '\'' then some text.dropLast else none
  | _ :: _, [] => none
  | c :: opening, first :: text => if first = c then enclosed? opening text else none

/-- The text between the opening text and the quote at the end is all there is besides them. -/
theorem enclosed?_eq_some_iff {opening text body : List Char} :
    enclosed? opening text = some body ↔ text = opening ++ body ++ ['\''] := by
  induction opening generalizing text with
  | nil =>
    rw [enclosed?, Option.ite_none_right_eq_some, List.nil_append, Option.some_inj]
    constructor
    · rintro ⟨closed, rfl⟩
      obtain ⟨body, rfl⟩ := List.getLast?_eq_some_iff.1 closed
      rw [List.dropLast_concat]
    · rintro rfl
      exact ⟨List.getLast?_concat, List.dropLast_concat⟩
  | cons c opening ih =>
    cases text with
    | nil => simp [enclosed?]
    | cons first text =>
      rw [enclosed?, Option.ite_none_right_eq_some, ih]
      simp only [List.cons_append, List.cons.injEq]

end EntityModel.Text
