import EntityModel.Registry.Inheritance

/-!
A session with a registry: operations performed one after another, each on the registry that the
last one left. Questions about a structured type can be asked once some answer has handed it out.
-/

set_option autoImplicit false

namespace EntityModel

/-- What can be asked of a registry and of the types that it hands out. -/
inductive Operation where
  | resolve (name : QualifiedName)
  | enumeration (name : QualifiedName)
  | complexType (name : QualifiedName)
  | entityType (name : QualifiedName)
  | scalarType (name : QualifiedName)
  | baseType (type : StructuredType)
  | element (type : StructuredType) (name : String)
  | property (type : StructuredType) (name : String)
  | navigation (type : StructuredType) (name : String)
  | propertyNames (type : StructuredType)
  | navigationNames (type : StructuredType)
  | keyNames (type : StructuredType)
  | isDerivedFrom (type : StructuredType) (other : QualifiedName)
  | propertyType (property : Property)
  | navigationTarget (navigation : NavigationProperty)

/-- What an operation answers unless it fails. -/
inductive Reply where
  | type (type : Option ModelType)
  | enumeration (type : Option Enumeration)
  | structured (type : Option StructuredType)
  | scalar (type : ScalarType)
  | element (element : Option Element)
  | property (property : Option Property)
  | navigation (navigation : Option NavigationProperty)
  | names (names : List String)
  | truth (holds : Bool)

def Reply.structured? : Reply → Option StructuredType
  | .type (some (.structured found)) => some found
  | .structured found => found
  | _ => none

namespace Operation

/-- The structured type that an operation asks about. -/
def subject? : Operation → Option StructuredType
  | baseType type | element type _ | property type _ | navigation type _ | propertyNames type
  | navigationNames type | keyNames type | isDerivedFrom type _ => some type
  | _ => none

def perform (provider : Provider) : Operation → Registry → Answer Reply
  | resolve name, registry => (registry.resolve provider name).map .type
  | enumeration name, registry => (registry.enumeration provider name).map .enumeration
  | complexType name, registry => (registry.complexType provider name).map .structured
  | entityType name, registry => (registry.entityType provider name).map .structured
  | scalarType name, registry => (registry.scalarType provider name).map .scalar
  | baseType type, registry => (registry.baseType provider type).map .structured
  | element type name, registry => (registry.element provider type name).map .element
  | property type name, registry => (registry.property provider type name).map .property
  | navigation type name, registry => (registry.navigation provider type name).map .navigation
  | propertyNames type, registry => (registry.propertyNames provider type).map .names
  | navigationNames type, registry => (registry.navigationNames provider type).map .names
  | keyNames type, registry => (registry.keyNames provider type).map .names
  | isDerivedFrom type other, registry =>
    (registry.isDerivedFrom provider type other).map .truth
  | propertyType declared, registry =>
    (registry.propertyType provider declared).map fun found => .type (some found)
  | navigationTarget declared, registry =>
    (registry.navigationTarget provider declared).map fun found => .structured (some found)

end Operation

namespace Registry

variable (provider : Provider)

/-- Performs operations one after another, with the answer to each. -/
def run : List Operation → Registry → List (Except SchemaError Reply) × Registry
  | [], registry => ([], registry)
  | operation :: rest, registry =>
    let (answer, registry) := operation.perform provider registry
    let (answers, registry) := run rest registry
    (answer :: answers, registry)

def handedOut (answer : Except SchemaError Reply) : List StructuredType :=
  (answer.toOption.bind Reply.structured?).toList

/-- Whether operations can be performed one after another: every type that is asked about is among
the known ones or was handed out by an earlier answer. -/
def Permits (known : List StructuredType) (registry : Registry) : List Operation → Prop
  | [] => True
  | operation :: rest =>
    (∀ type ∈ operation.subject?, type ∈ known) ∧
      Permits (handedOut (operation.perform provider registry).1 ++ known)
        (operation.perform provider registry).2 rest

instance decidablePermits : (known : List StructuredType) → (registry : Registry) →
    (operations : List Operation) → Decidable (Permits provider known registry operations)
  | _, _, [] => isTrue trivial
  | _, _, _ :: rest => @instDecidableAnd _ _ inferInstance (decidablePermits _ _ rest)

end Registry

end EntityModel
