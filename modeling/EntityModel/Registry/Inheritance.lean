import EntityModel.Registry.Basic

/-!
Questions about structured types that a registry answers along their base types.
-/

set_option autoImplicit false

namespace EntityModel.Registry

variable (provider : Provider)

/-- Base types from a name on, at most `depth` of them and none that was seen before. -/
def basesFrom (origin : StructuredType) : (depth : Nat) → (seen : List QualifiedName) →
    (next : Option QualifiedName) → Registry → Answer (List StructuredType)
  | _, _, none, registry => (.ok [], registry)
  | 0, _, some _, registry => (.error (.cyclicBases origin.name), registry)
  | depth + 1, seen, some next, registry =>
    if next ∈ seen then (.error (.cyclicBases origin.name), registry)
    else
      (registry.resolveStructured provider origin.category next).andThen fun
        | none, registry => (.error (.undeclared next .baseType), registry)
        | some type, registry =>
          (basesFrom origin depth (next :: seen) type.baseType registry).map (type :: ·)

/-- The base types of a type, nearest first. They are remembered once all of them are found. -/
def bases (type : StructuredType) (registry : Registry) : Answer (List StructuredType) :=
  match registry.baseTypes.lookup type.name with
  | some bases => (.ok bases, registry)
  | none =>
    (basesFrom provider type maxBaseTypes [type.name] type.baseType registry).andThen
      fun bases registry =>
        (.ok bases, { registry with baseTypes := (type.name, bases) :: registry.baseTypes })

def baseType (type : StructuredType) (registry : Registry) : Answer (Option StructuredType) :=
  (registry.bases provider type).map List.head?

def remember (registry : Registry) (type : QualifiedName) (name : String) (element : Element) :
    Registry :=
  { registry with elements := ((type, name), element) :: registry.elements }

/-- The element that a name means in a type: what is remembered, what the type declares itself, or
what the name means in its base type. Every type on the way remembers what was found, and base types
are looked at one after another, at most `depth` of them. -/
def elementWithin (name : String) (depth : Nat) (type : StructuredType) (registry : Registry) :
    Answer (Option Element) :=
  match registry.elements.lookup (type.name, name) with
  | some element => (.ok (some element), registry)
  | none =>
    match type.own? name with
    | some element => (.ok (some element), registry.remember type.name name element)
    | none =>
      (registry.baseType provider type).andThen fun
        | none, registry => (.ok none, registry)
        | some base, registry =>
          match depth with
          | 0 => (.error (.cyclicBases type.name), registry)
          | depth + 1 =>
            (elementWithin name depth base registry).andThen fun
              | some element, registry =>
                (.ok (some element), registry.remember type.name name element)
              | none, registry => (.ok none, registry)

/-- The element that a name means in a type. No type has more than `maxBaseTypes` base types. -/
def element (type : StructuredType) (name : String) (registry : Registry) :
    Answer (Option Element) :=
  elementWithin provider name maxBaseTypes type registry

def property (type : StructuredType) (name : String) (registry : Registry) :
    Answer (Option Property) :=
  (registry.element provider type name).map (·.bind Element.property?)

def navigation (type : StructuredType) (name : String) (registry : Registry) :
    Answer (Option NavigationProperty) :=
  (registry.element provider type name).map (·.bind Element.navigation?)

/-- The names of all properties of a type, inherited ones first. -/
def propertyNames (type : StructuredType) (registry : Registry) : Answer (List String) :=
  (registry.bases provider type).map (type.listNames StructuredType.ownProperties)

/-- The names of all navigation properties of a type, inherited ones first. -/
def navigationNames (type : StructuredType) (registry : Registry) : Answer (List String) :=
  (registry.bases provider type).map (type.listNames StructuredType.ownNavigations)

/-- The names of the key properties of a type. Base types are looked at only if the type has no key
of its own. -/
def keyNames (type : StructuredType) (registry : Registry) : Answer (List String) :=
  if type.key ≠ [] then (.ok type.key, registry)
  else (registry.bases provider type).map type.keyAlong

/-- Whether a name is that of a type or of one of its base types. -/
def isDerivedFrom (type : StructuredType) (other : QualifiedName) (registry : Registry) :
    Answer Bool :=
  if type.name = other then (.ok true, registry)
  else (registry.bases provider type).map (·.any (·.name == other))

def propertyType (property : Property) (registry : Registry) : Answer ModelType :=
  (registry.resolve provider property.type).andThen fun
    | some type, registry => (.ok type, registry)
    | none, registry => (.error (.undeclared property.type .propertyType), registry)

def navigationTarget (navigation : NavigationProperty) (registry : Registry) :
    Answer StructuredType :=
  (registry.entityType provider navigation.target).andThen fun
    | some type, registry => (.ok type, registry)
    | none, registry =>
      (.error (.undeclared navigation.target .navigationTarget), registry)

end EntityModel.Registry
