/-!
Octets as pairs of hexadecimal digits. Both cases are read, the lower one is written.
-/

set_option autoImplicit false

namespace EntityModel.Octets.Hex

def digitValue? (c : Char) : Option Nat :=
  if c.isDigit then some (c.toNat - '0'.toNat)
  else if 'a' ≤ c ∧ c ≤ 'f' then some (c.toNat - 'a'.toNat + 10)
  else if 'A' ≤ c ∧ c ≤ 'F' then some (c.toNat - 'A'.toNat + 10)
  else none

def isDigit (c : Char) : Bool := (digitValue? c).isSome

/-- The digit of a value below sixteen. -/
def digit (n : Nat) : Char :=
  if n < 10 then Char.ofNat ('0'.toNat + n) else Char.ofNat ('a'.toNat + (n - 10))

/-- The octets that a text spells, two digits each. -/
def decode? : List Char → Option (List UInt8)
  | [] => some []
  | [_] => none
  | high :: low :: rest => do
    let high ← digitValue? high
    let low ← digitValue? low
    let octets ← decode? rest
    return UInt8.ofNat (high * 16 + low) :: octets

def encode (octets : List UInt8) : List Char :=
  octets.flatMap fun octet => [digit (octet.toNat / 16), digit (octet.toNat % 16)]

theorem digitValue?_digit : ∀ n < 16, digitValue? (digit n) = some n := by decide

theorem decode?_encode (octets : List UInt8) : decode? (encode octets) = some octets := by
  induction octets with
  | nil => rfl
  | cons octet rest ih =>
    have octet_lt : octet.toNat < 256 := octet.toNat_lt
    have back : octet.toNat / 16 * 16 + octet.toNat % 16 = octet.toNat := Nat.div_add_mod' ..
    have high : digitValue? (digit (octet.toNat / 16)) = some (octet.toNat / 16) :=
      digitValue?_digit _ (by omega)
    have low : digitValue? (digit (octet.toNat % 16)) = some (octet.toNat % 16) :=
      digitValue?_digit _ (by omega)
    have rest_read : decode? (List.flatMap _ rest) = some rest := ih
    simp only [encode, List.flatMap_cons, List.cons_append, List.nil_append, decode?, high, low,
      rest_read, back, UInt8.ofNat_toNat, Option.bind_eq_bind, Option.bind_some, Option.pure_def]

end EntityModel.Octets.Hex
