import EntityModel.Schema.Declaration
import EntityModel.Schema.Error

/-!
Where declarations come from. A provider answers, for each category, what is declared under a name;
a catalog is a provider that holds its declarations, each name once over all categories.
-/

set_option autoImplicit false

namespace EntityModel

inductive Category where
  | enumeration
  | complex
  | entity
  deriving DecidableEq, Repr

def Declaration.category : Declaration → Category
  | enumeration _ => .enumeration
  | complex _ => .complex
  | entity _ => .entity

/-- A source of declarations, asked for one category at a time. -/
structure Provider where
  enumeration? : QualifiedName → Option EnumerationDeclaration
  complex? : QualifiedName → Option StructuredDeclaration
  entity? : QualifiedName → Option StructuredDeclaration

/-- The provider that takes each declaration from the first of several that has it. -/
def Provider.firstOf (layers : List Provider) : Provider where
  enumeration? name := layers.findSome? (·.enumeration? name)
  complex? name := layers.findSome? (·.complex? name)
  entity? name := layers.findSome? (·.entity? name)

/-- Declarations by category, under their qualified names. No name is taken twice, be it in one
category or in several. -/
structure Catalog where
  enumerations : List (QualifiedName × EnumerationDeclaration)
  complexTypes : List (QualifiedName × StructuredDeclaration)
  entityTypes : List (QualifiedName × StructuredDeclaration)
  distinct : (enumerations.map Prod.fst ++
    (complexTypes.map Prod.fst ++ entityTypes.map Prod.fst)).Nodup

namespace Catalog

def empty : Catalog := ⟨[], [], [], List.nodup_nil⟩

variable (catalog : Catalog)

/-- The names that are taken, in any category. -/
def names : List QualifiedName :=
  catalog.enumerations.map Prod.fst ++
    (catalog.complexTypes.map Prod.fst ++ catalog.entityTypes.map Prod.fst)

def size : Nat :=
  catalog.enumerations.length + catalog.complexTypes.length + catalog.entityTypes.length

def enumeration? (name : QualifiedName) : Option EnumerationDeclaration :=
  catalog.enumerations.lookup name

def complex? (name : QualifiedName) : Option StructuredDeclaration :=
  catalog.complexTypes.lookup name

def entity? (name : QualifiedName) : Option StructuredDeclaration :=
  catalog.entityTypes.lookup name

def provider : Provider := ⟨catalog.enumeration?, catalog.complex?, catalog.entity?⟩

/-- Puts a declaration under a free name into its category. -/
def insert (name : QualifiedName) (free : name ∉ catalog.names) : Declaration → Catalog
  | .enumeration declaration =>
    { catalog with
      enumerations := (name, declaration) :: catalog.enumerations
      distinct := List.nodup_cons.2 ⟨free, catalog.distinct⟩ }
  | .complex declaration =>
    { catalog with
      complexTypes := (name, declaration) :: catalog.complexTypes
      distinct := List.perm_middle.nodup_iff.2 (List.nodup_cons.2 ⟨free, catalog.distinct⟩) }
  | .entity declaration =>
    { catalog with
      entityTypes := (name, declaration) :: catalog.entityTypes
      distinct := (List.perm_middle.append_left _ |>.trans List.perm_middle).nodup_iff.2
        (List.nodup_cons.2 ⟨free, catalog.distinct⟩) }

/-- Adds a declaration in a namespace, unless its qualified name is taken. -/
def add (space : String) (declaration : Declaration) :
    Except SchemaError (QualifiedName × Catalog) :=
  let name : QualifiedName := ⟨space, declaration.name⟩
  if taken : name ∈ catalog.names then .error (.declaredTwice name)
  else .ok (name, catalog.insert name taken declaration)

end Catalog

end EntityModel
