import EntityModel.Proofs.Registry.Caches
import Mathlib.Logic.Relation

/-!
Types are published once and for all. Whatever an operation does, it changes a registry only by
resolving names and by noting what it found on the way up; a resolution publishes at most the one
type that is declared under its name, and asks the provider only for names that are not published.
-/

set_option autoImplicit false

namespace EntityModel

/-- The name that an operation resolves at once. -/
def Operation.sought? : Operation → Option QualifiedName
  | resolve name | enumeration name | complexType name | entityType name | scalarType name =>
    some name
  | propertyType declared => some declared.type
  | navigationTarget declared => some declared.target
  | _ => none

namespace Registry

variable {provider : Provider} {registry middle later : Registry} {name : QualifiedName}

section Resolution

/-- How a resolution may go: the name is that of a primitive type or is published already, or else
the provider is asked, and what it declares is published or there is nothing to publish. -/
inductive Resolution (provider : Provider) (name : QualifiedName) (registry : Registry) :
    Answer (Option ModelType) → Prop where
  | primitive : name.isPrimitive = true →
      Resolution provider name registry
        (.ok ((PrimitiveKind.ofQualifiedName? name).map .primitive), registry)
  | published {category : Category} {type : ModelType} : name.isPrimitive = false →
      registry.cached? category name = some type →
      Resolution provider name registry (.ok (some type), registry)
  | built {category : Category} {declaration : Declaration} {type : ModelType} :
      name.isPrimitive = false → ¬ registry.Publishes name →
      provider.DeclaresOnly name category declaration → declaration.build name = .ok type →
      Resolution provider name registry (.ok (some type), (registry.ask name).keep name type)
  | unpublished : name.isPrimitive = false → ¬ registry.Publishes name →
      (∀ type, provider.declared? name ≠ .ok (some type)) →
      Resolution provider name registry (provider.declared? name, registry.ask name)

theorem resolution (provider : Provider) (name : QualifiedName) (registry : Registry) :
    Resolution provider name registry (registry.resolve provider name) := by
  -- The ways are those in which a resolution tests the name, one test after another.
  unfold Registry.resolve
  split
  · next primitive => exact .primitive primitive
  next other =>
  have outside : name.isPrimitive = false := by simpa using other
  split
  · next type known =>
    obtain ⟨category, cached⟩ := known?_eq_some known
    exact .published outside cached
  next unknown =>
  have absent := known?_eq_none_iff.1 unknown
  split
  · next type found =>
    obtain ⟨category, declaration, only, built⟩ := Provider.declared?_eq_some found
    exact .built outside absent only built
  · next nothing => exact .unpublished outside absent nothing

/-- A resolution asks the provider only for a name that is not published, and then in all
categories. -/
theorem queries_resolve (provider : Provider) (name : QualifiedName) (registry : Registry) :
    (name.isPrimitive = true ∨ registry.Publishes name →
      (registry.resolve provider name).2.queries = registry.queries) ∧
    (¬ (name.isPrimitive = true ∨ registry.Publishes name) →
      (registry.resolve provider name).2.queries = questions name ++ registry.queries) := by
  have way := resolution provider name registry
  generalize registry.resolve provider name = answer at way ⊢
  cases way with
  | primitive primitive => exact ⟨fun _ => rfl, fun asked => absurd (.inl primitive) asked⟩
  | @published category type _ cached =>
    exact ⟨fun _ => rfl, fun asked => absurd (.inr ⟨category, by simp [cached]⟩) asked⟩
  | built outside absent =>
    exact ⟨fun free => absurd free (by simp [outside, absent]), fun _ => by simp⟩
  | unpublished outside absent =>
    exact ⟨fun free => absurd free (by simp [outside, absent]), fun _ => by simp⟩

/-- A resolution that finds no type publishes none. -/
theorem cached?_resolve_of_nothing
    (nothing : ∀ type, (registry.resolve provider name).1 ≠ .ok (some type)) (category : Category)
    (other : QualifiedName) :
    (registry.resolve provider name).2.cached? category other =
      registry.cached? category other := by
  have way := resolution provider name registry
  generalize registry.resolve provider name = answer at way nothing ⊢
  cases way with
  | primitive => rfl
  | published => rfl
  | @built _ _ type => exact absurd rfl (nothing type)
  | unpublished => exact cached?_ask ..

end Resolution

section Evolution

/-- One change of a registry: a name is resolved, or base types or an element are noted. -/
inductive Changes (provider : Provider) : Registry → Registry → Prop where
  | resolve (registry : Registry) (name : QualifiedName) :
      Changes provider registry (registry.resolve provider name).2
  | noteBases (registry : Registry) (name : QualifiedName) (bases : List StructuredType) :
      Changes provider registry { registry with baseTypes := (name, bases) :: registry.baseTypes }
  | noteElement (registry : Registry) (type : QualifiedName) (name : String) (element : Element) :
      Changes provider registry (registry.remember type name element)

/-- Changes one after another. -/
abbrev Evolves (provider : Provider) : Registry → Registry → Prop :=
  Relation.ReflTransGen (Changes provider)

section Answers

variable {α β : Type} {answer : Answer α}

theorem Evolves.andThen {next : α → Registry → Answer β} (first : Evolves provider registry answer.2)
    (rest : ∀ a middle, Evolves provider middle (next a middle).2) :
    Evolves provider registry (answer.andThen next).2 := by
  obtain ⟨outcome, middle⟩ := answer
  cases outcome with
  | ok a => exact first.trans (rest a middle)
  | error reason => exact first

theorem Evolves.map (f : α → β) (first : Evolves provider registry answer.2) :
    Evolves provider registry (answer.map f).2 :=
  first.andThen fun _ _ => .refl

end Answers

variable (provider)

theorem resolve_evolves (registry : Registry) (name : QualifiedName) :
    Evolves provider registry (registry.resolve provider name).2 :=
  .single (.resolve registry name)

theorem resolveStructured_evolves (registry : Registry) (category : StructuredCategory)
    (name : QualifiedName) :
    Evolves provider registry (registry.resolveStructured provider category name).2 :=
  (resolve_evolves provider registry name).map _

theorem basesFrom_evolves (registry : Registry) (origin : StructuredType) (depth : Nat)
    (seen : List QualifiedName) (next : Option QualifiedName) :
    Evolves provider registry (registry.basesFrom provider origin depth seen next).2 := by
  induction depth generalizing registry seen next with
  | zero => cases next <;> exact .refl
  | succ depth ih =>
    cases next with
    | none => exact .refl
    | some next =>
      rw [basesFrom]
      split
      · exact .refl
      refine (resolveStructured_evolves provider registry origin.category next).andThen ?_
      rintro (_ | type) middle
      · exact .refl
      · exact (ih middle (next :: seen) type.baseType).map _

theorem bases_evolves (registry : Registry) (type : StructuredType) :
    Evolves provider registry (registry.bases provider type).2 := by
  unfold Registry.bases
  split
  · exact .refl
  · exact (basesFrom_evolves provider registry type maxBaseTypes _ _).andThen fun bases middle =>
      .single (.noteBases middle type.name bases)

theorem elementWithin_evolves (registry : Registry) (name : String) (depth : Nat)
    (type : StructuredType) :
    Evolves provider registry (elementWithin provider name depth type registry).2 := by
  induction depth using Nat.strongRecOn generalizing registry type with
  | ind depth ih =>
  unfold elementWithin
  split
  · exact .refl
  split
  · exact .single (.noteElement registry type.name name _)
  refine ((bases_evolves provider registry type).map List.head?).andThen ?_
  rintro (_ | base) middle
  · exact .refl
  -- The look-up goes on in the base type if it may go deeper at all.
  cases depth with
  | zero => exact .refl
  | succ depth =>
    refine (ih depth (Nat.lt_succ_self depth) middle base).andThen ?_
    rintro (_ | element) last
    · exact .refl
    · exact .single (.noteElement last type.name name element)

theorem perform_evolves (registry : Registry) (operation : Operation) :
    Evolves provider registry (operation.perform provider registry).2 := by
  cases operation with
  | resolve name => exact (resolve_evolves provider registry name).map _
  | enumeration name => exact ((resolve_evolves provider registry name).map _).map _
  | complexType name | entityType name =>
    exact (resolveStructured_evolves provider registry _ name).map _
  | scalarType name =>
    refine ((resolve_evolves provider registry name).andThen ?_).map _
    rintro (_ | ⟨_ | _ | _⟩) middle <;> exact .refl
  | baseType type => exact ((bases_evolves provider registry type).map _).map _
  | element type name => exact (elementWithin_evolves provider registry name _ type).map _
  | property type name | navigation type name =>
    exact ((elementWithin_evolves provider registry name _ type).map _).map _
  | propertyNames type | navigationNames type =>
    exact ((bases_evolves provider registry type).map _).map _
  | keyNames type =>
    refine Evolves.map _ ?_
    unfold keyNames
    split
    · exact .refl
    · exact (bases_evolves provider registry type).map _
  | isDerivedFrom type other =>
    refine Evolves.map _ ?_
    unfold isDerivedFrom
    split
    · exact .refl
    · exact (bases_evolves provider registry type).map _
  | propertyType property =>
    refine ((resolve_evolves provider registry property.type).andThen ?_).map _
    rintro (_ | _) middle <;> exact .refl
  | navigationTarget navigation =>
    refine ((resolveStructured_evolves provider registry .entity navigation.target).andThen ?_).map _
    rintro (_ | _) middle <;> exact .refl

theorem run_evolves (registry : Registry) (operations : List Operation) :
    Evolves provider registry (run provider operations registry).2 := by
  induction operations generalizing registry with
  | nil => exact .refl
  | cons operation rest ih => exact (perform_evolves provider registry operation).trans (ih _)

end Evolution

section Invariants

/-- Every published type is built from the only declaration of its name, in the cache of the
category of this declaration; no name of a primitive type is published. -/
def Published (provider : Provider) (registry : Registry) : Prop :=
  ∀ category name type, registry.cached? category name = some type →
    name.isPrimitive = false ∧ ∃ declaration,
      provider.DeclaresOnly name category declaration ∧ declaration.build name = .ok type

theorem published_empty (provider : Provider) : Published provider empty := by
  rintro (_ | _ | _) name type cached <;> cases cached

theorem Published.change (published : Published provider registry)
    (changes : Changes provider registry later) : Published provider later := by
  cases changes with
  | noteBases => exact published
  | noteElement => exact published
  | resolve name =>
    have way := resolution provider name registry
    generalize registry.resolve provider name = answer at way ⊢
    cases way with
    | primitive => exact published
    | published => exact published
    | unpublished => exact published
    | @built own declaration type outside _ only built =>
      intro category other found cached
      rw [cached?_keep, cached?_ask] at cached
      -- What is cached now is the type that was built or was cached before.
      split at cached
      · next kept =>
        cases cached
        obtain ⟨same, rfl⟩ := kept
        have category_eq : own = category := by
          rw [Declaration.category?_build built, Option.some_inj] at same
          exact (Provider.category_of_declaration? only.declared).symm.trans same
        subst category_eq
        exact ⟨outside, declaration, only, built⟩
      · exact published category other found cached

theorem Published.evolve (published : Published provider registry)
    (evolves : Evolves provider registry later) : Published provider later := by
  induction evolves with
  | refl => exact published
  | tail _ changes ih => exact ih.change changes

/-- A name is published in one category at most. -/
theorem Published.unique (published : Published provider registry) {first second : Category}
    {type : ModelType} (one : registry.cached? first name = some type)
    (other : registry.cached? second name ≠ none) : second = first := by
  obtain ⟨type', cached⟩ := Option.ne_none_iff_exists'.1 other
  obtain ⟨-, _, only, -⟩ := published first name type one
  obtain ⟨-, _, declared, -⟩ := published second name type' cached
  exact only.alone second (by simp [declared.declared])

/-- What is published stays, and questions are asked only for names that were not published. -/
structure Grows (registry later : Registry) : Prop where
  keeps : ∀ category name type, registry.cached? category name = some type →
    later.cached? category name = some type
  asks : ∃ names : List QualifiedName, later.queries = names.flatMap questions ++ registry.queries ∧
    ∀ name ∈ names, name.isPrimitive = false ∧ ¬ registry.Publishes name

theorem Grows.refl (registry : Registry) : Grows registry registry :=
  ⟨fun _ _ _ cached => cached, [], rfl, by simp⟩

theorem Grows.trans (first : Grows registry middle) (second : Grows middle later) :
    Grows registry later := by
  refine ⟨fun category name type cached => second.keeps _ _ _ (first.keeps _ _ _ cached), ?_⟩
  obtain ⟨early, asked, fresh⟩ := first.asks
  obtain ⟨late, askedLater, freshLater⟩ := second.asks
  refine ⟨late ++ early, by rw [askedLater, asked, List.flatMap_append, List.append_assoc], ?_⟩
  intro name mem
  rcases List.mem_append.1 mem with mem | mem
  -- A name that was not published after the first part was not published before it.
  · refine ⟨(freshLater name mem).1, ?_⟩
    rintro ⟨category, cached⟩
    obtain ⟨type, cached⟩ := Option.ne_none_iff_exists'.1 cached
    exact (freshLater name mem).2 ⟨category, by simp [first.keeps _ _ _ cached]⟩
  · exact fresh name mem

theorem Changes.grows (changes : Changes provider registry later) : Grows registry later := by
  cases changes with
  | noteBases => exact ⟨fun _ _ _ cached => cached, [], rfl, by simp⟩
  | noteElement => exact ⟨fun _ _ _ cached => cached, [], rfl, by simp⟩
  | resolve name =>
    have way := resolution provider name registry
    generalize registry.resolve provider name = answer at way ⊢
    cases way with
    | primitive => exact .refl registry
    | published => exact .refl registry
    | unpublished outside absent =>
      exact ⟨fun _ _ _ cached => by rwa [cached?_ask], [name], by simp, by simp [outside, absent]⟩
    | built outside absent _ _ =>
      refine ⟨fun category other type cached => ?_, [name], by simp, by simp [outside, absent]⟩
      -- The name of the type that is kept was not published before.
      have apart : other ≠ name := by
        rintro rfl
        exact absent ⟨category, by simp [cached]⟩
      rw [cached?_keep, if_neg fun kept => apart kept.2, cached?_ask, cached]

theorem Evolves.grows (evolves : Evolves provider registry later) : Grows registry later := by
  induction evolves with
  | refl => exact .refl registry
  | tail _ changes ih => exact ih.trans changes.grows

end Invariants

section Repetition

variable {reason : SchemaError}

theorem Published.not_publishes (published : Published provider registry)
    (repeats : provider.Repeats name) : ¬ registry.Publishes name := by
  rintro ⟨category, cached⟩
  obtain ⟨type, cached⟩ := Option.ne_none_iff_exists'.1 cached
  obtain ⟨-, _, only, -⟩ := published category name type cached
  exact repeats.not_declaresOnly only

theorem resolve_of_repeats (published : Published provider registry)
    (outside : name.isPrimitive = false) (repeats : provider.Repeats name) :
    (registry.resolve provider name).1 = .error (.declaredTwice name) := by
  have way := resolution provider name registry
  generalize registry.resolve provider name = answer at way ⊢
  cases way with
  | primitive primitive => simp [outside] at primitive
  | @published category type _ cached =>
    exact absurd ⟨category, by simp [cached]⟩ (published.not_publishes repeats)
  | built _ _ only => exact absurd only repeats.not_declaresOnly
  | unpublished => exact Provider.declared?_of_repeats repeats

theorem andThen_error {α β : Type} {answer : Answer α} (next : α → Registry → Answer β)
    (failed : answer.1 = .error reason) : (answer.andThen next).1 = .error reason := by
  obtain ⟨outcome, later⟩ := answer
  obtain rfl := failed
  rfl

theorem map_error {α β : Type} {answer : Answer α} (f : α → β)
    (failed : answer.1 = .error reason) : (answer.map f).1 = .error reason :=
  andThen_error _ failed

/-- An operation that resolves a name at once fails if the resolution does. -/
theorem perform_error {operation : Operation} (sought : operation.sought? = some name)
    (failed : (registry.resolve provider name).1 = .error reason) :
    (operation.perform provider registry).1 = .error reason := by
  cases operation <;> cases sought
  -- Whatever an operation does with the type comes after the resolution.
  case resolve => exact map_error _ failed
  case enumeration => exact map_error _ (map_error _ failed)
  case complexType | entityType => exact map_error _ (map_error _ failed)
  case scalarType => exact map_error _ (andThen_error _ failed)
  case propertyType => exact map_error _ (andThen_error _ failed)
  case navigationTarget => exact map_error _ (andThen_error _ (map_error _ failed))

end Repetition

/-- In every session a type is published once and for all: in one cache, built from the only
declaration of its name, and kept from then on; the provider is asked only for names that are not
published. A name that is declared in several categories is never published, and outside the
namespace of the primitive types every operation that resolves it fails. -/
theorem published_once_for_all (provider : Provider) (before after : List Operation) :
    let registry := (run provider before empty).2
    let later := (run provider after registry).2
    (∀ category name type, registry.cached? category name = some type →
      name.isPrimitive = false ∧
      (∀ other, registry.cached? other name ≠ none → other = category) ∧
      (∃ declaration, provider.DeclaresOnly name category declaration ∧
        declaration.build name = .ok type) ∧
      later.cached? category name = some type) ∧
    (∃ names : List QualifiedName,
      later.queries = names.flatMap questions ++ registry.queries ∧
      ∀ name ∈ names, name.isPrimitive = false ∧ ¬ registry.Publishes name) ∧
    (∀ name, provider.Repeats name → ¬ registry.Publishes name ∧
      (name.isPrimitive = false → ∀ operation : Operation, operation.sought? = some name →
        (operation.perform provider registry).1 = .error (.declaredTwice name))) ∧
    ∀ (reached : Registry) (name : QualifiedName),
      ((∀ type, (reached.resolve provider name).1 ≠ .ok (some type)) → ∀ category other,
        (reached.resolve provider name).2.cached? category other =
          reached.cached? category other) ∧
      (name.isPrimitive = true ∨ reached.Publishes name →
        (reached.resolve provider name).2.queries = reached.queries) ∧
      (¬ (name.isPrimitive = true ∨ reached.Publishes name) →
        (reached.resolve provider name).2.queries = questions name ++ reached.queries) := by
  intro registry later
  have published : Published provider registry :=
    (published_empty provider).evolve (run_evolves provider empty before)
  have grows : Grows registry later := (run_evolves provider registry after).grows
  refine ⟨?_, grows.asks, ?_, ?_⟩
  · intro category name type cached
    obtain ⟨outside, built⟩ := published category name type cached
    exact ⟨outside, fun other => published.unique cached, built, grows.keeps _ _ _ cached⟩
  · intro name repeats
    exact ⟨published.not_publishes repeats, fun outside operation sought =>
      perform_error sought (resolve_of_repeats published outside repeats)⟩
  · intro reached name
    exact ⟨cached?_resolve_of_nothing, queries_resolve provider name reached⟩

/-- The name of an enumeration and of a complex type, in the namespace of the primitive types. -/
def hiddenTwice : Provider where
  enumeration? name := if name = .primitive "Foo" then some { name := "Foo" } else none
  complex? name := if name = .primitive "Foo" then some { name := "Foo" } else none
  entity? _ := none

/-- Names in the namespace of the primitive types are not looked up, so declaring one of them twice
goes unnoticed. -/
theorem repetition_unnoticed : ¬ ∀ (provider : Provider) (before : List Operation)
    (name : QualifiedName), provider.Repeats name →
    ∀ operation : Operation, operation.sought? = some name →
      (operation.perform provider (run provider before empty).2).1 =
        .error (.declaredTwice name) := by
  intro noticed
  have repeats : hiddenTwice.Repeats (.primitive "Foo") :=
    ⟨.enumeration, .complex, by decide, by simp [Provider.declaration?, hiddenTwice],
      by simp [Provider.declaration?, hiddenTwice]⟩
  cases noticed hiddenTwice [] _ repeats (.resolve _) rfl

end Registry

end EntityModel
