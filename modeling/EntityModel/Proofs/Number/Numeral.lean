import EntityModel.Proofs.Number.Notation

/-!
A numeral is read back from its text. The text has a sign only if the number is negative, a point
only if digits come after it, and an exponent only if the numeral has one.
-/

set_option autoImplicit false

namespace EntityModel.Numeral

open EntityModel.Text

/-- The exponent as it is written, with its mark. -/
def exponentText (n : Numeral) : List Char :=
  if n.exponentDigits = [] then []
  else 'E' :: ((if n.exponentNegative then ['-'] else []) ++ n.exponentDigits)

/-- The numeral as it is written, with its exponent. -/
def fullText (n : Numeral) : List Char := n.positionalText ++ n.exponentText

variable {form : NumeralForm} {n : Numeral}

theorem signText_minus (negative : Bool) :
    SignText negative (if negative = true then ['-'] else []) := by
  cases negative with
  | true => exact .minus
  | false => exact .omitted

theorem Follows.exponentText (follows : Follows form n) :
    ExponentText n.exponentNegative n.exponentDigits n.exponentText := by
  unfold Numeral.exponentText
  split
  next empty =>
    rw [empty, follows.exponent_signed empty]
    exact .omitted
  next filled => exact .mark (.inr rfl) (signText_minus _) follows.exponent_digits filled

theorem Follows.writtenAs (follows : Follows form n) : n.WrittenAs n.fullText := by
  have point : FractionText n.fraction (if n.fraction = [] then [] else '.' :: n.fraction) := by
    split
    next empty =>
      rw [empty]
      exact .omitted
    next filled => exact .point follows.fraction_digits filled
  have written := WrittenAs.intro (signText_minus n.negative) follows.whole_digits
    (List.length_pos_iff.1 follows.whole_filled) point follows.exponentText
  simpa only [fullText, positionalText, List.append_assoc] using written

theorem read?_fullText (follows : Follows form n) : read? form n.fullText = some n :=
  read?_eq_some_iff.2 ⟨follows.writtenAs, follows⟩

theorem fullText_of_no_exponent (plain : n.exponentDigits = []) :
    n.fullText = n.positionalText := by
  rw [fullText, exponentText, if_pos plain, List.append_nil]

end EntityModel.Numeral
