/-!
Octets in base 64, three octets to four symbols. Two alphabets differ in their last two symbols. Of
the equals signs that fill up the last group of four, all or some may be left out; the bits of the
last symbol that belong to no octet must be zero.
-/

set_option autoImplicit false

namespace EntityModel.Octets.Base64

/-- The two symbols after the letters and the digits. -/
structure Alphabet where
  symbol62 : Char
  symbol63 : Char

/-- The alphabet that needs no escape in a URL. -/
def Alphabet.url : Alphabet := ⟨'-', '_'⟩

def Alphabet.standard : Alphabet := ⟨'+', '/'⟩

namespace Alphabet

def value? (alphabet : Alphabet) (c : Char) : Option Nat :=
  if 'A' ≤ c ∧ c ≤ 'Z' then some (c.toNat - 'A'.toNat)
  else if 'a' ≤ c ∧ c ≤ 'z' then some (c.toNat - 'a'.toNat + 26)
  else if '0' ≤ c ∧ c ≤ '9' then some (c.toNat - '0'.toNat + 52)
  else if c = alphabet.symbol62 then some 62
  else if c = alphabet.symbol63 then some 63
  else none

def symbol (alphabet : Alphabet) (n : Nat) : Char :=
  if n < 26 then Char.ofNat ('A'.toNat + n)
  else if n < 52 then Char.ofNat ('a'.toNat + (n - 26))
  else if n < 62 then Char.ofNat ('0'.toNat + (n - 52))
  else if n = 62 then alphabet.symbol62
  else alphabet.symbol63

end Alphabet

def octetsOfSextets? : List Nat → Option (List UInt8)
  | [] => some []
  | [_] => none
  | [a, b] => if b % 16 = 0 then some [UInt8.ofNat (a * 4 + b / 16)] else none
  | [a, b, c] =>
    if c % 4 = 0 then
      some [UInt8.ofNat (a * 4 + b / 16), UInt8.ofNat (b % 16 * 16 + c / 4)]
    else none
  | a :: b :: c :: d :: rest => do
    let octets ← octetsOfSextets? rest
    return UInt8.ofNat (a * 4 + b / 16) :: UInt8.ofNat (b % 16 * 16 + c / 4) ::
      UInt8.ofNat (c % 4 * 64 + d) :: octets

/-- Cuts octets into six-bit numbers, with zero bits after the last octet. -/
def sextetsOfOctets : List UInt8 → List Nat
  | [] => []
  | [x] => [x.toNat / 4, x.toNat % 4 * 16]
  | [x, y] => [x.toNat / 4, x.toNat % 4 * 16 + y.toNat / 16, y.toNat % 16 * 4]
  | x :: y :: z :: rest =>
    x.toNat / 4 :: (x.toNat % 4 * 16 + y.toNat / 16) :: (y.toNat % 16 * 4 + z.toNat / 64) ::
      z.toNat % 64 :: sextetsOfOctets rest

/-- How many equals signs fill up the last group after this many symbols. -/
def padding (symbols : Nat) : Nat := (4 - symbols % 4) % 4

/-- The octets that a text spells in one alphabet. After the symbols come only equals signs, and no
more than fill up the last group. -/
def decode? (alphabet : Alphabet) (text : List Char) : Option (List UInt8) := do
  let symbols := text.takeWhile (· ≠ '=')
  let tail := text.dropWhile (· ≠ '=')
  if tail.length ≤ padding symbols.length ∧ tail.all (· = '=') then
    octetsOfSextets? (← symbols.mapM alphabet.value?)
  else none

/-- The text of the octets in one alphabet, without padding. -/
def encode (alphabet : Alphabet) (octets : List UInt8) : List Char :=
  (sextetsOfOctets octets).map alphabet.symbol

end EntityModel.Octets.Base64
