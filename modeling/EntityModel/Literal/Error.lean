import EntityModel.ErrorClass
import EntityModel.QualifiedName
import EntityModel.Text.Quoted
import EntityModel.Value.Basic

/-!
Errors of converting between values, literals and URI literals.
-/

set_option autoImplicit false

namespace EntityModel

/-- Why a conversion fails. Most causes name the type of the literal. -/
inductive ConversionError where
  | invalidLiteral (type : QualifiedName) (literal : String)
  | malformedUri (type : QualifiedName) (literal : String)
  | unqualifiedUri (type : QualifiedName) (literal : String)
  | wrongNamespace (expected found : String)
  | wrongTypeName (expected found : String)
  | nullForbidden (type : QualifiedName)
  | tooLong (type : QualifiedName) (length max : Nat)
  | tooManyDigits (type : QualifiedName) (digits precision : Nat)
  | tooManyFractionDigits (type : QualifiedName) (digits scale : Nat)
  | notAscii (type : QualifiedName)
  | unsupportedValue (type : QualifiedName) (found : HostType)
  | unsupportedTarget (type : QualifiedName) (target : HostType)
  | doesNotFit (type : QualifiedName) (value : String) (target : HostType)
  | outOfRange (type : QualifiedName) (value : String)
  | emptyToken (type : QualifiedName) (literal : String)
  | severalTokens (type : QualifiedName) (literal : String)
  | unknownToken (type : QualifiedName) (token : String)
  | unknownValue (type : QualifiedName) (value : Int)
  | uncoveredBits (type : QualifiedName) (bits : Int64)
  deriving DecidableEq

namespace ConversionError

open EntityModel.Text

def kind : ConversionError → ErrorClass
  | invalidLiteral .. | malformedUri .. | unqualifiedUri .. | wrongNamespace ..
  | wrongTypeName .. => .syntaxError
  | nullForbidden .. | tooLong .. | tooManyDigits .. | tooManyFractionDigits ..
  | notAscii .. => .facetViolation
  | unsupportedValue .. | unsupportedTarget .. | doesNotFit .. | outOfRange .. =>
    .typeMismatch
  | emptyToken .. | severalTokens .. | unknownToken .. | unknownValue ..
  | uncoveredBits .. => .content

/-- What went wrong, without the code of the class. -/
def explanation : ConversionError → String
  | invalidLiteral type literal => s!"{quoted literal} is not a valid {type} literal"
  | malformedUri type literal => s!"{quoted literal} is not a valid {type} URI literal"
  | unqualifiedUri type literal =>
    s!"URI literal {quoted literal} lacks the qualified type prefix of {type}"
  | wrongNamespace expected found =>
    s!"URI literal namespace {quoted found} does not match {quoted expected}"
  | wrongTypeName expected found =>
    s!"URI literal type name {quoted found} does not match {quoted expected}"
  | nullForbidden type => s!"null is not allowed for non-nullable {type}"
  | tooLong type length max => s!"{type} length {length} exceeds MaxLength {max}"
  | tooManyDigits type digits precision =>
    s!"{type} has {digits} significant digits, Precision allows {precision}"
  | tooManyFractionDigits type digits scale =>
    s!"{type} has {digits} fractional digits, Scale allows {scale}"
  | notAscii type => s!"{type} value contains non-ASCII characters but Unicode is false"
  | unsupportedValue type found => s!"{type} cannot render a value of host type {found.name}"
  | unsupportedTarget type target =>
    s!"{type} cannot be represented as host type {target.name}"
  | doesNotFit type value target =>
    s!"{type} value {value} does not fit host type {target.name}"
  | outOfRange type value => s!"value {value} is outside the range of {type}"
  | emptyToken type literal => s!"{quoted literal} contains an empty {type} member token"
  | severalTokens type literal =>
    s!"{quoted literal} lists several members of non-flags enum {type}"
  | unknownToken type token =>
    s!"{quoted token} is neither a member name nor a member value of {type}"
  | unknownValue type value => s!"value {value} is not a member value of {type}"
  | uncoveredBits type bits =>
    let digits := String.ofList (hexDigits bits.toBitVec.toNat)
    s!"bits 0x{digits} of {type} value are not covered by any member"

def message (e : ConversionError) : String := s!"[{e.kind.code}] {e.explanation}"

end ConversionError

end EntityModel
