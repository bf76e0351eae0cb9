import EntityModel.Literal.Facets
import EntityModel.QualifiedName

/-!
Declarations of types as a schema gives them: enumerations, complex types and entity types. Nothing
about them is checked here.
-/

set_option autoImplicit false

namespace EntityModel

/-- A member of an enumeration, perhaps without a value of its own. -/
structure MemberDeclaration where
  name : String
  value : Option Int64 := none
  deriving DecidableEq

/-- An enumeration over an integer type, which may be left out. -/
structure EnumerationDeclaration where
  name : String
  underlying : Option QualifiedName := none
  isFlags : Bool := false
  members : List MemberDeclaration := []
  deriving DecidableEq

structure Property where
  name : String
  type : QualifiedName
  isCollection : Bool := false
  facets : Facets := .empty
  defaultValue : Option String := none
  deriving DecidableEq

/-- A property that leads to entities. -/
structure NavigationProperty where
  name : String
  target : QualifiedName
  isCollection : Bool := false
  nullable : Option Bool := none
  partner : Option String := none
  containsTarget : Bool := false
  deriving DecidableEq

/-- A complex or entity type. Key and stream mean something for entity types alone. -/
structure StructuredDeclaration where
  name : String
  baseType : Option QualifiedName := none
  isAbstract : Bool := false
  isOpen : Bool := false
  properties : List Property := []
  navigations : List NavigationProperty := []
  key : List String := []
  hasStream : Bool := false
  deriving DecidableEq

inductive Declaration where
  | enumeration (declaration : EnumerationDeclaration)
  | complex (declaration : StructuredDeclaration)
  | entity (declaration : StructuredDeclaration)
  deriving DecidableEq

def Declaration.name : Declaration → String
  | enumeration declaration => declaration.name
  | complex declaration => declaration.name
  | entity declaration => declaration.name

end EntityModel
