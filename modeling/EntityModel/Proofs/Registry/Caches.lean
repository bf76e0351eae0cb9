import EntityModel.Proofs.Registry.Ascent
import EntityModel.Registry.Session

/-!
The three caches of a registry and the declarations of a provider, category by category. A type is
kept in the cache of the category in which its name is declared, so what a registry does with its
caches can be said once for all categories.
-/

set_option autoImplicit false

namespace EntityModel

def StructuredCategory.toCategory : StructuredCategory → Category
  | complex => .complex
  | entity => .entity

/-- The category of a type that is declared, not built in. -/
def ModelType.category? : ModelType → Option Category
  | primitive _ => none
  | enumeration _ => some .enumeration
  | structured type => some type.category.toCategory

/-- The type that a declaration describes. -/
def Declaration.build (name : QualifiedName) : Declaration → Except SchemaError ModelType
  | enumeration declaration => (Enumeration.ofDeclaration name declaration).map .enumeration
  | complex declaration =>
    (StructuredType.ofDeclaration name .complex declaration).map .structured
  | entity declaration => (StructuredType.ofDeclaration name .entity declaration).map .structured

theorem Declaration.category?_build {name : QualifiedName} {declaration : Declaration}
    {type : ModelType} (built : declaration.build name = .ok type) :
    type.category? = some declaration.category := by
  cases declaration with
  | enumeration declaration =>
    obtain ⟨_, _, rfl⟩ := map_eq_ok_iff.1 built
    rfl
  | complex declaration | entity declaration =>
    obtain ⟨found, described, rfl⟩ := map_eq_ok_iff.1 built
    simp only [ModelType.category?, (StructuredType.ofDeclaration_eq_ok described).2]
    rfl

namespace Provider

variable {provider : Provider} {name : QualifiedName} {category : Category}
  {declaration : Declaration}

/-- What a provider declares under a name in one category. -/
def declaration? (provider : Provider) : Category → QualifiedName → Option Declaration
  | .enumeration, name => (provider.enumeration? name).map .enumeration
  | .complex, name => (provider.complex? name).map .complex
  | .entity, name => (provider.entity? name).map .entity

/-- A declaration is the only one with its name. -/
structure DeclaresOnly (provider : Provider) (name : QualifiedName) (category : Category)
    (declaration : Declaration) : Prop where
  declared : provider.declaration? category name = some declaration
  alone : ∀ other, provider.declaration? other name ≠ none → other = category

/-- A name has declarations in more than one category. -/
def Repeats (provider : Provider) (name : QualifiedName) : Prop :=
  ∃ first second, first ≠ second ∧ provider.declaration? first name ≠ none ∧
    provider.declaration? second name ≠ none

theorem category_of_declaration? (declared : provider.declaration? category name =
    some declaration) : declaration.category = category := by
  cases category <;> obtain ⟨_, -, rfl⟩ := Option.map_eq_some_iff.1 declared <;> rfl

/-- A name is declared nowhere, in one category only, or repeatedly. -/
theorem declarations (provider : Provider) (name : QualifiedName) :
    (∀ category, provider.declaration? category name = none) ∨
      (∃ category declaration, provider.DeclaresOnly name category declaration) ∨
      provider.Repeats name := by
  by_cases absent : ∀ category, provider.declaration? category name = none
  · exact .inl absent
  right
  obtain ⟨category, present⟩ := Classical.not_forall.1 absent
  obtain ⟨declaration, declared⟩ := Option.ne_none_iff_exists'.1 present
  by_cases alone : ∀ other, provider.declaration? other name ≠ none → other = category
  · exact .inl ⟨category, declaration, declared, alone⟩
  · obtain ⟨other, elsewhere⟩ := Classical.not_forall.1 alone
    obtain ⟨also, apart⟩ := Classical.not_imp.1 elsewhere
    exact .inr ⟨other, category, apart, also, present⟩

theorem declared?_of_absent (absent : ∀ category, provider.declaration? category name = none) :
    provider.declared? name = .ok none := by
  have enumeration := Option.map_eq_none_iff.1 (absent .enumeration)
  have complex := Option.map_eq_none_iff.1 (absent .complex)
  have entity := Option.map_eq_none_iff.1 (absent .entity)
  simp only [declared?, enumeration, complex, entity]

theorem DeclaresOnly.declared?_eq (only : provider.DeclaresOnly name category declaration) :
    provider.declared? name = (declaration.build name).map some := by
  have absent (other : Category) (apart : other ≠ category) :
      provider.declaration? other name = none :=
    Classical.byContradiction fun declared => apart (only.alone other declared)
  have declared := only.declared
  cases category with
  | enumeration =>
    have complex := Option.map_eq_none_iff.1 (absent .complex nofun)
    have entity := Option.map_eq_none_iff.1 (absent .entity nofun)
    obtain ⟨own, found, rfl⟩ := Option.map_eq_some_iff.1 declared
    simp only [declared?, found, complex, entity, Declaration.build, map_map]
  | complex =>
    have enumeration := Option.map_eq_none_iff.1 (absent .enumeration nofun)
    have entity := Option.map_eq_none_iff.1 (absent .entity nofun)
    obtain ⟨own, found, rfl⟩ := Option.map_eq_some_iff.1 declared
    simp only [declared?, enumeration, found, entity, Declaration.build, map_map]
  | entity =>
    have enumeration := Option.map_eq_none_iff.1 (absent .enumeration nofun)
    have complex := Option.map_eq_none_iff.1 (absent .complex nofun)
    obtain ⟨own, found, rfl⟩ := Option.map_eq_some_iff.1 declared
    simp only [declared?, enumeration, complex, found, Declaration.build, map_map]

theorem declared?_of_repeats (repeats : provider.Repeats name) :
    provider.declared? name = .error (.declaredTwice name) := by
  obtain ⟨first, second, apart, one, other⟩ := repeats
  unfold declared?
  cases enumeration : provider.enumeration? name <;> cases complex : provider.complex? name <;>
    cases entity : provider.entity? name <;> try rfl
  -- What is left has at most one declaration.
  all_goals
    exfalso
    revert one other apart
    cases first <;> cases second <;> simp [declaration?, enumeration, complex, entity]

/-- A type that is found under a name is built from the only declaration of this name. -/
theorem declared?_eq_some {type : ModelType} (found : provider.declared? name = .ok (some type)) :
    ∃ category declaration, provider.DeclaresOnly name category declaration ∧
      declaration.build name = .ok type := by
  rcases provider.declarations name with absent | ⟨category, declaration, only⟩ | repeats
  · rw [declared?_of_absent absent] at found
    cases found
  · rw [only.declared?_eq] at found
    obtain ⟨_, built, same⟩ := map_eq_ok_iff.1 found
    cases same
    exact ⟨category, declaration, only, built⟩
  · rw [declared?_of_repeats repeats] at found
    cases found

theorem Repeats.not_declaresOnly (repeats : provider.Repeats name) :
    ¬ provider.DeclaresOnly name category declaration := by
  rintro ⟨-, alone⟩
  obtain ⟨first, second, apart, one, other⟩ := repeats
  exact apart ((alone first one).trans (alone second other).symm)

end Provider

namespace Registry

variable {registry : Registry} {name : QualifiedName}

/-- What a registry has published under a name in the cache of one category. -/
def cached? (registry : Registry) : Category → QualifiedName → Option ModelType
  | .enumeration, name => (registry.enumerations.lookup name).map .enumeration
  | .complex, name => (registry.complexTypes.lookup name).map .structured
  | .entity, name => (registry.entityTypes.lookup name).map .structured

def Publishes (registry : Registry) (name : QualifiedName) : Prop :=
  ∃ category, registry.cached? category name ≠ none

/-- The questions to the provider that one resolution asks, the latest first. -/
def questions (name : QualifiedName) : List Query :=
  [⟨.entity, name⟩, ⟨.complex, name⟩, ⟨.enumeration, name⟩]

@[simp] theorem cached?_ask (registry : Registry) (asked : QualifiedName) (category : Category)
    (name : QualifiedName) : (registry.ask asked).cached? category name =
      registry.cached? category name := by
  cases category <;> rfl

@[simp] theorem queries_ask (registry : Registry) (name : QualifiedName) :
    (registry.ask name).queries = questions name ++ registry.queries := rfl

@[simp] theorem queries_keep (registry : Registry) (name : QualifiedName) (type : ModelType) :
    (registry.keep name type).queries = registry.queries := by
  cases type with
  | primitive kind => rfl
  | enumeration type => rfl
  | structured type => cases category : type.category <;> simp only [keep, category]

/-- Keeping a type puts it under its name into the cache of its category and nothing else. -/
theorem cached?_keep (registry : Registry) (name : QualifiedName) (type : ModelType)
    (category : Category) (other : QualifiedName) :
    (registry.keep name type).cached? category other =
      if type.category? = some category ∧ other = name then some type
      else registry.cached? category other := by
  by_cases same : other = name
  · subst same
    cases type with
    | primitive kind => simp [keep, ModelType.category?]
    | enumeration type => cases category <;> simp [keep, cached?, ModelType.category?]
    | structured type =>
      cases own : type.category <;> cases category <;>
        simp [keep, cached?, ModelType.category?, own, StructuredCategory.toCategory]
  · have apart : (other == name) = false := beq_false_of_ne same
    cases type with
    | primitive kind => simp [keep, ModelType.category?]
    | enumeration type => cases category <;> simp [keep, cached?, same, List.lookup_cons, apart]
    | structured type =>
      cases own : type.category <;> cases category <;>
        simp [keep, cached?, same, List.lookup_cons, apart, own]

theorem known?_eq_or (registry : Registry) (name : QualifiedName) :
    registry.known? name = (registry.cached? .enumeration name).or
      ((registry.cached? .complex name).or (registry.cached? .entity name)) := by
  simp only [known?, cached?]
  cases registry.enumerations.lookup name <;> cases registry.complexTypes.lookup name <;> rfl

theorem known?_eq_some {type : ModelType} (known : registry.known? name = some type) :
    ∃ category, registry.cached? category name = some type := by
  rw [known?_eq_or, Option.or_eq_some_iff, Option.or_eq_some_iff] at known
  rcases known with cached | ⟨-, cached | ⟨-, cached⟩⟩ <;> exact ⟨_, cached⟩

theorem known?_eq_none_iff : registry.known? name = none ↔ ¬ registry.Publishes name := by
  rw [known?_eq_or, Option.or_eq_none_iff, Option.or_eq_none_iff]
  constructor
  · rintro ⟨enumeration, complex, entity⟩ ⟨_ | _ | _, cached⟩
    · exact cached enumeration
    · exact cached complex
    · exact cached entity
  · intro absent
    have none (category : Category) : registry.cached? category name = none :=
      Classical.byContradiction fun cached => absent ⟨category, cached⟩
    exact ⟨none .enumeration, none .complex, none .entity⟩

end Registry

end EntityModel
