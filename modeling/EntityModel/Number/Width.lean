/-!
The five widths of integers: one octet without a sign, and one, two, four or eight octets with a
sign.
-/

set_option autoImplicit false

-- The bounds, and the powers in the modules that count with them, are powers of the core library,
-- also where an algebra library that brings powers of its own is imported.
attribute [instance (high)] instPowNat
attribute [default_instance high + 1] instPowNat

namespace EntityModel

inductive IntegerWidth where
  | byte
  | sbyte
  | int16
  | int32
  | int64
  deriving DecidableEq, Repr

namespace IntegerWidth

def least : IntegerWidth → Int
  | byte => 0
  | sbyte => -2 ^ 7
  | int16 => -2 ^ 15
  | int32 => -2 ^ 31
  | int64 => -2 ^ 63

def greatest : IntegerWidth → Int
  | byte => 2 ^ 8 - 1
  | sbyte => 2 ^ 7 - 1
  | int16 => 2 ^ 15 - 1
  | int32 => 2 ^ 31 - 1
  | int64 => 2 ^ 63 - 1

def Contains (width : IntegerWidth) (n : Int) : Prop := width.least ≤ n ∧ n ≤ width.greatest

instance (width : IntegerWidth) (n : Int) : Decidable (width.Contains n) := by
  unfold Contains; infer_instance

/-- Whether every number of `other` fits `width`. -/
def Includes (width other : IntegerWidth) : Prop :=
  width.least ≤ other.least ∧ other.greatest ≤ width.greatest

instance (width other : IntegerWidth) : Decidable (width.Includes other) := by
  unfold Includes; infer_instance

end IntegerWidth

/-- The magnitude of a number of two octets, in two octets again. The least number, whose opposite
does not fit, is its own magnitude. -/
def wordMagnitude (n : Int) : Int := (Int16.ofInt n).abs.toInt

theorem wordMagnitude_eq_natAbs {n : Int} (least_lt : -2 ^ 15 < n) (lt_limit : n < 2 ^ 15) :
    wordMagnitude n = n.natAbs := by
  have fits : (Int16.ofInt n).toInt = n :=
    Int16.toInt_ofInt_of_le (Int.le_of_lt least_lt) lt_limit
  have other : (Int16.ofInt n).toBitVec ≠ BitVec.intMin 16 := by
    intro least
    have same : n = -2 ^ 15 := fits.symm.trans (congrArg BitVec.toInt least)
    omega
  rw [wordMagnitude, ← Int16.toInt_toBitVec, Int16.toBitVec_abs,
    BitVec.toInt_abs_eq_natAbs_of_ne_intMin other, Int16.toInt_toBitVec, fits]

structure SizedInt (width : IntegerWidth) where
  val : Int
  contains : width.Contains val
  deriving DecidableEq

/-- No width goes beyond eight octets. -/
theorem SizedInt.natAbs_lt {width : IntegerWidth} (n : SizedInt width) :
    n.val.natAbs < 2 ^ 64 := by
  obtain ⟨val, least_le, le_greatest⟩ := n
  cases width <;>
    simp only [IntegerWidth.least, IntegerWidth.greatest] at least_le le_greatest <;> grind

def SizedInt.ofInt? (width : IntegerWidth) (n : Int) : Option (SizedInt width) :=
  if h : width.Contains n then some ⟨n, h⟩ else none

end EntityModel
