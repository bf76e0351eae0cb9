import EntityModel.ErrorClass
import EntityModel.Text.Digits
import EntityModel.Text.Quoted

/-!
Versions of the protocol and their vocabularies. A version text has two numbers with a dot between
them and may go on, after a semicolon, with a tag that says nothing about the version. Each version
from 3.0 on fixes namespace URIs and the keys of annotations.
-/

set_option autoImplicit false

namespace EntityModel

inductive VersionError where
  | malformed (version : String)
  | unsupported (version : String)
  deriving DecidableEq, Repr

namespace VersionError

open EntityModel.Text

def kind : VersionError → ErrorClass
  | malformed _ | unsupported _ => .syntaxError

/-- What went wrong, without the code of the class. -/
def explanation : VersionError → String
  | malformed version =>
    s!"{quoted version} is not a data service version (expected <major>.<minor>[;tag])"
  | unsupported version => s!"{quoted version} is not a supported data service version"

def message (e : VersionError) : String := s!"[{e.kind.code}] {e.explanation}"

end VersionError

/-- The supported versions, the oldest first. -/
inductive ProtocolVersion where
  | v10
  | v20
  | v30
  | v40
  deriving DecidableEq, Repr

/-- A table from keys to the words of one version. -/
abbrev Vocabulary := List (String × String)

namespace ProtocolVersion

def all : List ProtocolVersion := [v10, v20, v30, v40]

def text : ProtocolVersion → String
  | v10 => "1.0"
  | v20 => "2.0"
  | v30 => "3.0"
  | v40 => "4.0"

/-- The position of a version in the order of their age. -/
def age : ProtocolVersion → Nat
  | v10 => 0
  | v20 => 1
  | v30 => 2
  | v40 => 3

instance : Ord ProtocolVersion := ⟨fun a b => compare a.age b.age⟩

def namespaces : ProtocolVersion → Vocabulary
  | v10 | v20 => []
  | v30 =>
    [("dataservices", "http://schemas.microsoft.com/ado/2007/08/dataservices"),
      ("metadata", "http://schemas.microsoft.com/ado/2007/08/dataservices/metadata"),
      ("scheme", "http://schemas.microsoft.com/ado/2007/08/dataservices/scheme"),
      ("navigationLinkRel", "http://schemas.microsoft.com/ado/2007/08/dataservices/related/"),
      ("associationLinkRel", "http://schemas.microsoft.com/ado/2007/08/dataservices/relatedlinks/"),
      ("mediaEditLinkRel", "http://schemas.microsoft.com/ado/2007/08/dataservices/edit-media/")]
  | v40 =>
    [("metadata", "http://docs.oasis-open.org/odata/ns/metadata"),
      ("dataservices", "http://docs.oasis-open.org/odata/ns/data"),
      ("scheme", "http://docs.oasis-open.org/odata/ns/scheme"),
      ("navigationLinkRel", "http://docs.oasis-open.org/odata/ns/related/"),
      ("associationLinkRel", "http://docs.oasis-open.org/odata/ns/relatedlinks/"),
      ("mediaEditLinkRel", "http://docs.oasis-open.org/odata/ns/edit-media/")]

def annotations : ProtocolVersion → Vocabulary
  | v10 | v20 => []
  | v30 =>
    [("jsonType", "odata.type"),
      ("jsonId", "odata.id"),
      ("jsonETag", "odata.etag"),
      ("jsonReadLink", "odata.readLink"),
      ("jsonEditLink", "odata.editLink"),
      ("jsonMediaReadLink", "odata.mediaReadLink"),
      ("jsonMediaEditLink", "odata.mediaEditLink"),
      ("jsonMediaContentType", "odata.mediaContentType"),
      ("jsonMediaETag", "odata.mediaEtag"),
      ("jsonAssociationLink", "@odata.associationLinkUrl"),
      ("jsonNavigationLink", "@odata.navigationLinkUrl"),
      ("jsonError", "odata.error"),
      ("jsonNextLink", "odata.nextLink")]
  | v40 =>
    [("jsonType", "@odata.type"),
      ("jsonId", "@odata.id"),
      ("jsonETag", "@odata.etag"),
      ("jsonReadLink", "@odata.readLink"),
      ("jsonEditLink", "@odata.editLink"),
      ("jsonMediaReadLink", "@odata.mediaReadLink"),
      ("jsonMediaEditLink", "@odata.mediaEditLink"),
      ("jsonMediaContentType", "@odata.mediaContentType"),
      ("jsonMediaETag", "@odata.mediaEtag"),
      ("jsonAssociationLink", "@odata.associationLink"),
      ("jsonNavigationLink", "@odata.navigationLink"),
      ("jsonError", "error"),
      ("jsonNextLink", "@odata.nextLink")]

end ProtocolVersion

/-- The two numbers of a version text, as digits. -/
structure VersionNumber where
  major : List Char
  minor : List Char
  deriving DecidableEq, Repr

namespace VersionNumber

open EntityModel.Text

/-- Whether a text may follow the number: nothing, or a semicolon and a tag on the same line. -/
def isTag : List Char → Bool
  | [] => true
  | c :: rest => c == ';' && rest.all (· ≠ '\n')

/-- Reads a version text of any version, supported or not. -/
def read? (version : List Char) : Option VersionNumber :=
  let major := version.takeWhile Char.isDigit
  match readChar? '.' (version.dropWhile Char.isDigit) with
  | none => none
  | some rest =>
    let minor := rest.takeWhile Char.isDigit
    if major ≠ [] ∧ minor ≠ [] ∧ isTag (rest.dropWhile Char.isDigit) then some ⟨major, minor⟩
    else none

/-- Whether both numbers are numbers of 64 bits. -/
def Fits (number : VersionNumber) : Prop :=
  digitsValue number.major < 2 ^ 64 ∧ digitsValue number.minor < 2 ^ 64

instance (number : VersionNumber) : Decidable number.Fits := by unfold Fits; infer_instance

/-- The major number is compared first, then the minor number. -/
def Less (a b : VersionNumber) : Prop :=
  digitsValue a.major < digitsValue b.major ∨
    (digitsValue a.major = digitsValue b.major ∧ digitsValue a.minor < digitsValue b.minor)

instance (a b : VersionNumber) : Decidable (a.Less b) := by unfold Less; infer_instance

end VersionNumber

/-- What a text says before the first semicolon. -/
def untagged (version : String) : String :=
  String.ofList (version.toList.takeWhile (· ≠ ';'))

/-- The number of a version text as it is written there. -/
def numberText (version : String) : Except VersionError String :=
  match VersionNumber.read? version.toList with
  | some _ => .ok (untagged version)
  | none => .error (.malformed version)

def ProtocolVersion.ofText (version : String) : Except VersionError ProtocolVersion :=
  match numberText version with
  | .error reason => .error reason
  | .ok number =>
    match ProtocolVersion.all.find? (·.text == number) with
    | some v => .ok v
    | none => .error (.unsupported version)

def isSupported (version : String) : Except VersionError Bool :=
  (numberText version).map fun number => ProtocolVersion.all.any (·.text == number)

/-- The number of a version text that must name a supported version. The text is read for it once
more. -/
def supportedNumber (version : String) : Except VersionError VersionNumber :=
  match isSupported version with
  | .error reason => .error reason
  | .ok false => .error (.unsupported version)
  | .ok true =>
    match VersionNumber.read? version.toList with
    | none => .error (.unsupported version)
    | some number => if number.Fits then .ok number else .error (.unsupported version)

/-- Whether a version is later than another one. Both must be supported; the first is checked first.
-/
def isLater (version other : String) : Except VersionError Bool :=
  match supportedNumber version, supportedNumber other with
  | .error reason, _ => .error reason
  | .ok _, .error reason => .error reason
  | .ok number, .ok other => .ok (decide (other.Less number))

end EntityModel
