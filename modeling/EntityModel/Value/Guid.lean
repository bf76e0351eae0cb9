import EntityModel.Octets.Hex

/-!
Globally unique identifiers: sixteen octets, written as hexadecimal digits in five groups.
-/

set_option autoImplicit false

namespace EntityModel

structure Guid where
  octets : List UInt8
  length_eq : octets.length = 16
  deriving DecidableEq

namespace Guid

open EntityModel.Octets

def ofOctets? (octets : List UInt8) : Option Guid :=
  if h : octets.length = 16 then some ⟨octets, h⟩ else none

/-- How many digits each group has. -/
def groups : List Nat := [8, 4, 4, 4, 12]

/-- Whether a text consists of these groups, with hyphens between them. -/
def hasForm (text : List Char) : Bool :=
  let parts := text.splitOn '-'
  parts.map List.length = groups ∧ parts.flatten.all Hex.isDigit

/-- Reads an identifier; the groups are separated by hyphens and either case is read. -/
def read? (text : List Char) : Option Guid :=
  let parts := text.splitOn '-'
  if parts.map List.length = groups then (Hex.decode? parts.flatten).bind ofOctets? else none

/-- Cuts a list into pieces of the given lengths. -/
def cut : List Nat → List Char → List (List Char)
  | [], _ => []
  | n :: rest, text => text.take n :: cut rest (text.drop n)

def text (guid : Guid) : List Char := ['-'].intercalate (cut groups (Hex.encode guid.octets))

end Guid

end EntityModel
