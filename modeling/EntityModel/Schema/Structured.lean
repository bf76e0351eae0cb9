import EntityModel.Schema.Declaration
import EntityModel.Schema.Error

/-!
Complex and entity types with single inheritance. A structured type holds what it declares itself;
what it inherits is found along its base types, nearest first. The functions on a type and the list
of its base types say which declarations count.
-/

set_option autoImplicit false

namespace EntityModel

/-- What a structured type is good for: being part of a value, or having an identity of its own. -/
inductive StructuredCategory where
  | complex
  | entity
  deriving DecidableEq, Repr

inductive Element where
  | property (property : Property)
  | navigation (navigation : NavigationProperty)
  deriving DecidableEq

namespace Element

def name : Element → String
  | property p => p.name
  | navigation n => n.name

def property? : Element → Option Property
  | property p => some p
  | navigation _ => none

def navigation? : Element → Option NavigationProperty
  | property _ => none
  | navigation n => some n

end Element

/-- A complex or entity type. Its own elements have different names. -/
structure StructuredType where
  name : QualifiedName
  category : StructuredCategory
  baseType : Option QualifiedName
  isAbstract : Bool
  isOpen : Bool
  hasStream : Bool
  key : List String
  elements : List Element
  distinct : (elements.map Element.name).Nodup
  deriving DecidableEq

/-- The first text of a list that stood in it before or is taken already. -/
def firstRepeated? (taken : List String) : List String → Option String
  | [] => none
  | text :: rest => if text ∈ taken then some text else firstRepeated? (text :: taken) rest

theorem firstRepeated?_eq_none_iff (taken texts : List String) :
    firstRepeated? taken texts = none ↔ texts.Nodup ∧ ∀ text ∈ texts, text ∉ taken := by
  induction texts generalizing taken with
  | nil => simp [firstRepeated?]
  | cons text rest ih =>
    rw [firstRepeated?]
    by_cases repeated : text ∈ taken
    · simp [repeated]
    · simp only [repeated, if_false, ih, List.nodup_cons, List.mem_cons, not_or,
        forall_eq_or_imp, not_false_eq_true, true_and]
      constructor
      · rintro ⟨distinct, fresh⟩
        exact ⟨⟨fun mem => (fresh text mem).1 rfl, distinct⟩, fun other mem => (fresh other mem).2⟩
      · rintro ⟨⟨first, distinct⟩, fresh⟩
        exact ⟨distinct, fun other mem => ⟨fun same => first (same ▸ mem), fresh other mem⟩⟩

/-- A list of texts with the first occurrence of each. -/
def firstOccurrences : List String → List String
  | [] => []
  | text :: rest => text :: (firstOccurrences rest).filter (· ≠ text)

@[simp] theorem mem_firstOccurrences (text : String) (texts : List String) :
    text ∈ firstOccurrences texts ↔ text ∈ texts := by
  induction texts with
  | nil => rfl
  | cons first rest ih => by_cases same : text = first <;> simp [firstOccurrences, ih, same]

theorem nodup_firstOccurrences (texts : List String) : (firstOccurrences texts).Nodup := by
  induction texts with
  | nil => exact List.nodup_nil
  | cons first rest ih =>
    rw [firstOccurrences, List.nodup_cons]
    exact ⟨by simp, ih.filter _⟩

namespace StructuredType

/-- The type that a declaration describes. Only an entity type has a key or a stream. -/
def ofDeclaration (name : QualifiedName) (category : StructuredCategory)
    (declaration : StructuredDeclaration) : Except SchemaError StructuredType :=
  let elements := declaration.properties.map .property ++ declaration.navigations.map .navigation
  match found : firstRepeated? [] (elements.map Element.name) with
  | some element => .error (.repeatedElement name element)
  | none =>
    .ok {
      name, category, elements
      baseType := declaration.baseType
      isAbstract := declaration.isAbstract
      isOpen := declaration.isOpen
      hasStream := category = .entity && declaration.hasStream
      key := if category = .entity then declaration.key else []
      distinct := ((firstRepeated?_eq_none_iff _ _).1 found).1 }

/-- The element that a type itself declares under a name. -/
def own? (t : StructuredType) (name : String) : Option Element := t.elements.find? (·.name == name)

def ownProperties (t : StructuredType) : List String :=
  (t.elements.filterMap Element.property?).map Property.name

def ownNavigations (t : StructuredType) : List String :=
  (t.elements.filterMap Element.navigation?).map NavigationProperty.name

/-- The names that a type and its base types declare, beginning at the root, each name once. -/
def listNames (own : StructuredType → List String) (t : StructuredType)
    (bases : List StructuredType) : List String :=
  firstOccurrences ((t :: bases).reverse.flatMap own)

/-- The key of a type: the first one that is not empty on the way to the root. -/
def keyAlong (t : StructuredType) (bases : List StructuredType) : List String :=
  ((t :: bases).find? (·.key ≠ [])).elim [] (·.key)

end StructuredType

end EntityModel
