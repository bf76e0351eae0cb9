import EntityModel.Schema.Resolution

/-!
The registry of a model: it resolves names against a provider and remembers every type that it has
built, the base types of every type for which they were found, and every element that was looked up.
What is remembered is never replaced, and failures are not remembered.

An operation takes the registry as it is and returns its answer with the registry as it is
afterwards, also when the answer is an error: types that were built on the way stay.
-/

set_option autoImplicit false

namespace EntityModel

/-- A question to the provider. -/
structure Query where
  category : Category
  name : QualifiedName
  deriving DecidableEq, Repr

/-- What a registry remembers. `queries` lists the questions to the provider, the latest first. -/
structure Registry where
  enumerations : List (QualifiedName × Enumeration) := []
  complexTypes : List (QualifiedName × StructuredType) := []
  entityTypes : List (QualifiedName × StructuredType) := []
  baseTypes : List (QualifiedName × List StructuredType) := []
  elements : List ((QualifiedName × String) × Element) := []
  queries : List Query := []

/-- An answer together with the registry after it. -/
abbrev Answer (α : Type) : Type := Except SchemaError α × Registry

/-- Goes on with an answer unless it is an error. -/
def Answer.andThen {α β : Type} (answer : Answer α) (next : α → Registry → Answer β) : Answer β :=
  match answer with
  | (.ok a, registry) => next a registry
  | (.error reason, registry) => (.error reason, registry)

def Answer.map {α β : Type} (f : α → β) (answer : Answer α) : Answer β :=
  answer.andThen fun a registry => (.ok (f a), registry)

namespace Registry

def empty : Registry := {}

def known? (registry : Registry) (name : QualifiedName) : Option ModelType :=
  match registry.enumerations.lookup name with
  | some type => some (.enumeration type)
  | none =>
    match registry.complexTypes.lookup name with
    | some type => some (.structured type)
    | none => (registry.entityTypes.lookup name).map .structured

/-- Remembers a type. Primitive types need not be remembered. -/
def keep (registry : Registry) (name : QualifiedName) : ModelType → Registry
  | .primitive _ => registry
  | .enumeration type => { registry with enumerations := (name, type) :: registry.enumerations }
  | .structured type =>
    match type.category with
    | .complex => { registry with complexTypes := (name, type) :: registry.complexTypes }
    | .entity => { registry with entityTypes := (name, type) :: registry.entityTypes }

/-- Notes that the provider is asked for a name in all categories. -/
def ask (registry : Registry) (name : QualifiedName) : Registry :=
  { registry with
    queries := ⟨.entity, name⟩ :: ⟨.complex, name⟩ :: ⟨.enumeration, name⟩ :: registry.queries }

variable (provider : Provider)

/-- The type with a name. The provider is asked unless the name is that of a primitive type or the
type is remembered. -/
def resolve (name : QualifiedName) (registry : Registry) : Answer (Option ModelType) :=
  if name.isPrimitive then (.ok ((PrimitiveKind.ofQualifiedName? name).map .primitive), registry)
  else
    match registry.known? name with
    | some type => (.ok (some type), registry)
    | none =>
      match provider.declared? name with
      | .ok (some type) => (.ok (some type), (registry.ask name).keep name type)
      | answer => (answer, registry.ask name)

/-- The structured type of a category with a name; a type of another category does not count. -/
def resolveStructured (category : StructuredCategory) (name : QualifiedName) (registry : Registry) :
    Answer (Option StructuredType) :=
  (registry.resolve provider name).map (·.bind (ModelType.structured? category))

/-- The enumeration with a name; a type of another category does not count. -/
def enumeration (name : QualifiedName) (registry : Registry) : Answer (Option Enumeration) :=
  (registry.resolve provider name).map fun
    | some (.enumeration type) => some type
    | _ => none

def complexType (name : QualifiedName) (registry : Registry) : Answer (Option StructuredType) :=
  registry.resolveStructured provider .complex name

def entityType (name : QualifiedName) (registry : Registry) : Answer (Option StructuredType) :=
  registry.resolveStructured provider .entity name

/-- The type with a name, which must be one whose values have literals. -/
def scalarType (name : QualifiedName) (registry : Registry) : Answer ScalarType :=
  (registry.resolve provider name).andThen fun
    | some (.primitive kind), registry => (.ok (.primitive kind), registry)
    | some (.enumeration type), registry => (.ok (.enumeration type), registry)
    | some (.structured _), registry => (.error (.notScalar name), registry)
    | none, registry => (.error (.undeclared name .scalarType), registry)

end Registry

end EntityModel
