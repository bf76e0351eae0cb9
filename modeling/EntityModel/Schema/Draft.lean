import EntityModel.Schema.Catalog

/-!
Building catalogs by hand. Drafts are declarations whose references to types are still texts; each
is completed in the namespace that is current when it is declared, and the catalog is made at the
end.
-/

set_option autoImplicit false

namespace EntityModel

/-- A reference to a type: its qualified name, or a text to be completed by the current namespace.
-/
inductive TypeReference where
  | qualified (name : QualifiedName)
  | written (text : String)
  deriving DecidableEq

def TypeReference.resolve (current : String) : TypeReference → QualifiedName
  | qualified name => name
  | written text => .ofReference current text

/-- A property whose type may still be a text. -/
structure PropertyDraft where
  name : String
  type : TypeReference
  isCollection : Bool := false
  facets : Facets := .empty
  defaultValue : Option String := none

/-- A navigation property whose target may still be a text. -/
structure NavigationDraft where
  name : String
  target : TypeReference
  isCollection : Bool := false
  nullable : Option Bool := none
  partner : Option String := none
  containsTarget : Bool := false

/-- An enumeration whose underlying type may still be a text. -/
structure EnumerationDraft where
  name : String
  underlying : Option TypeReference := none
  isFlags : Bool := false
  members : List MemberDeclaration := []

/-- A structured type whose references may still be texts. -/
structure StructuredDraft where
  name : String
  baseType : Option TypeReference := none
  isAbstract : Bool := false
  isOpen : Bool := false
  properties : List PropertyDraft := []
  navigations : List NavigationDraft := []
  key : List String := []
  hasStream : Bool := false

def PropertyDraft.complete (current : String) (draft : PropertyDraft) : Property where
  name := draft.name
  type := draft.type.resolve current
  isCollection := draft.isCollection
  facets := draft.facets
  defaultValue := draft.defaultValue

def NavigationDraft.complete (current : String) (draft : NavigationDraft) : NavigationProperty where
  name := draft.name
  target := draft.target.resolve current
  isCollection := draft.isCollection
  nullable := draft.nullable
  partner := draft.partner
  containsTarget := draft.containsTarget

def EnumerationDraft.complete (current : String) (draft : EnumerationDraft) :
    EnumerationDeclaration where
  name := draft.name
  underlying := draft.underlying.map (·.resolve current)
  isFlags := draft.isFlags
  members := draft.members

def StructuredDraft.complete (current : String) (draft : StructuredDraft) :
    StructuredDeclaration where
  name := draft.name
  baseType := draft.baseType.map (·.resolve current)
  isAbstract := draft.isAbstract
  isOpen := draft.isOpen
  properties := draft.properties.map (·.complete current)
  navigations := draft.navigations.map (·.complete current)
  key := draft.key
  hasStream := draft.hasStream

/-- A schema in the making: the current namespace, and the declarations so far with theirs. -/
structure SchemaDraft where
  space : String
  declarations : List (String × Declaration) := []

namespace SchemaDraft

def start (space : String) : SchemaDraft := { space }

def inNamespace (schema : SchemaDraft) (space : String) : SchemaDraft := { schema with space }

def declare (schema : SchemaDraft) (declaration : Declaration) : SchemaDraft :=
  { schema with declarations := schema.declarations ++ [(schema.space, declaration)] }

def enumeration (schema : SchemaDraft) (draft : EnumerationDraft) : SchemaDraft :=
  schema.declare (.enumeration (draft.complete schema.space))

def complexType (schema : SchemaDraft) (draft : StructuredDraft) : SchemaDraft :=
  schema.declare (.complex (draft.complete schema.space))

def entityType (schema : SchemaDraft) (draft : StructuredDraft) : SchemaDraft :=
  schema.declare (.entity (draft.complete schema.space))

/-- Adds declarations to a catalog in order, up to the first whose name is taken. -/
def addAll (catalog : Catalog) : List (String × Declaration) → Except SchemaError Catalog
  | [] => .ok catalog
  | (space, declaration) :: rest =>
    match catalog.add space declaration with
    | .ok (_, catalog) => addAll catalog rest
    | .error reason => .error reason

def toCatalog (schema : SchemaDraft) : Except SchemaError Catalog :=
  addAll .empty schema.declarations

end SchemaDraft

end EntityModel
