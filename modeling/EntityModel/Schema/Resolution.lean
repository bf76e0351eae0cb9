import EntityModel.Literal.Scalar
import EntityModel.Schema.Catalog
import EntityModel.Schema.Structured

/-!
The types of a model as its provider describes them. Every question is answered here from the
declarations alone; `Registry` answers the same questions and remembers what it has found.
-/

set_option autoImplicit false

namespace EntityModel

inductive ModelType where
  | primitive (kind : PrimitiveKind)
  | enumeration (type : Enumeration)
  | structured (type : StructuredType)

namespace ModelType

def name : ModelType → QualifiedName
  | primitive kind => kind.qualifiedName
  | enumeration type => type.name
  | structured type => type.name

/-- The type as one whose values have literals. -/
def scalarType? : ModelType → Option ScalarType
  | primitive kind => some (.primitive kind)
  | enumeration type => some (.enumeration type)
  | structured _ => none

def structured? (category : StructuredCategory) : ModelType → Option StructuredType
  | structured type => if type.category = category then some type else none
  | _ => none

/-- Whether values of `other` may stand where values of `type` are expected. Primitive types follow
numeric promotion, every other type accepts itself alone. -/
def accepts (type other : ModelType) : Bool :=
  match type, other with
  | primitive kind, primitive other => kind.accepts other
  | enumeration type, enumeration other => type.name == other.name
  | structured type, structured other => type.category == other.category && type.name == other.name
  | _, _ => false

end ModelType

/-- The most base types that a type may have, one above the other. -/
def maxBaseTypes : Nat := 64

namespace Provider

/-- The type that a provider declares under a name. It must be declared in one category only. -/
def declared? (provider : Provider) (name : QualifiedName) :
    Except SchemaError (Option ModelType) :=
  match provider.enumeration? name, provider.complex? name, provider.entity? name with
  | none, none, none => .ok none
  | some declaration, none, none =>
    (Enumeration.ofDeclaration name declaration).map (some ∘ .enumeration)
  | none, some declaration, none =>
    (StructuredType.ofDeclaration name .complex declaration).map (some ∘ .structured)
  | none, none, some declaration =>
    (StructuredType.ofDeclaration name .entity declaration).map (some ∘ .structured)
  | _, _, _ => .error (.declaredTwice name)

/-- The type with a name. Names in the namespace of the primitive types are never looked up. -/
def resolve (provider : Provider) (name : QualifiedName) : Except SchemaError (Option ModelType) :=
  if name.isPrimitive then .ok ((PrimitiveKind.ofQualifiedName? name).map .primitive)
  else provider.declared? name

/-- The structured type of a category with a name; a type of another category does not count. -/
def resolveStructured (provider : Provider) (category : StructuredCategory) (name : QualifiedName) :
    Except SchemaError (Option StructuredType) :=
  (provider.resolve name).map (·.bind (ModelType.structured? category))

/-- Base types from a name on, at most `depth` of them and none that was seen before. -/
def basesFrom (provider : Provider) (origin : StructuredType) : (depth : Nat) →
    (seen : List QualifiedName) → (next : Option QualifiedName) →
    Except SchemaError (List StructuredType)
  | _, _, none => .ok []
  | 0, _, some _ => .error (.cyclicBases origin.name)
  | depth + 1, seen, some next =>
    if next ∈ seen then .error (.cyclicBases origin.name)
    else
      match provider.resolveStructured origin.category next with
      | .error reason => .error reason
      | .ok none => .error (.undeclared next .baseType)
      | .ok (some type) =>
        (provider.basesFrom origin depth (next :: seen) type.baseType).map (type :: ·)

/-- The base types of a type, nearest first. -/
def bases (provider : Provider) (type : StructuredType) :
    Except SchemaError (List StructuredType) :=
  provider.basesFrom type maxBaseTypes [type.name] type.baseType

/-- The element that a name means in a type: its own, or that of the nearest base type. -/
def element (provider : Provider) (type : StructuredType) (name : String) :
    Except SchemaError (Option Element) :=
  match type.own? name with
  | some element => .ok (some element)
  | none => (provider.bases type).map (·.findSome? (·.own? name))

end Provider

end EntityModel
