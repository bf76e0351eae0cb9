import EntityModel.Proofs.Registry.Failure
import EntityModel.Proofs.Schema.Draft
import EntityModel.Proofs.Schema.Fault

/-!
A catalog as the provider of a registry. No name is declared in two categories, so a name stands for
the type that its only declaration describes, and no operation ever finds a name declared twice. But
a name in the namespace of the primitive types is never looked up, although a catalog accepts it.
-/

set_option autoImplicit false

namespace EntityModel

open Catalog

namespace Registry

variable {provider : Provider} {registry : Registry} {name : QualifiedName} {category : Category}
  {declaration : Declaration}

/-- A name with one declaration stands for what this declaration describes. -/
theorem resolve_of_declaresOnly (published : Published provider registry)
    (outside : name.isPrimitive = false)
    (only : provider.DeclaresOnly name category declaration) :
    (registry.resolve provider name).1 = (declaration.build name).map some := by
  have unique {other : Category} {same : Declaration}
      (also : provider.DeclaresOnly name other same) : same = declaration := by
    obtain rfl : other = category := only.alone other (by simp [also.declared])
    exact Option.some.inj (also.declared.symm.trans only.declared)
  have way := resolution provider name registry
  generalize registry.resolve provider name = answer at way ⊢
  cases way with
  | primitive primitive => simp [outside] at primitive
  | published _ cached =>
    obtain ⟨-, own, also, built⟩ := published _ name _ cached
    rw [← unique also, built]
    rfl
  | built _ _ also built =>
    rw [← unique also, built]
    rfl
  | unpublished => exact only.declared?_eq

end Registry

namespace Catalog

/-- A catalog never lets a name appear to be declared twice. -/
theorem not_caused_declaredTwice (catalog : Catalog) (twice : QualifiedName) :
    ¬ Registry.Cause catalog.provider (.declaredTwice twice) := by
  rintro (_ | _ | _ | @⟨name, _, failed⟩)
  rcases catalog.provider.declarations name with absent | ⟨category, declaration, only⟩ | repeats
  · rw [Provider.declared?_of_absent absent] at failed
    cases failed
  · rw [only.declared?_eq, map_eq_error_iff] at failed
    cases Declaration.faults_of_build failed
  · exact catalog.not_repeats name repeats

/-- After any additions, one after another, an addition succeeds exactly if its name is not that of
an accepted one. It changes the look-up of its own name in its own category, or nothing if it is
refused; every name is found in one category at most, and a catalog has as many declarations as were
accepted. A schema in the making becomes the catalog of its own additions, or is refused for the
first name that is repeated; and no session with a catalog finds a name that is declared twice. -/
theorem names_unique (before : List (String × Declaration)) :
    let answers := (addEach before empty).1
    let catalog := (addEach before empty).2
    List.Forall₂ (fun addition answer => answer = .ok (nameOf addition) ∨
      answer = .error (.declaredTwice (nameOf addition))) before answers ∧
    (∀ (space : String) (declaration : Declaration),
      let name := nameOf (space, declaration)
      let later := (addEach (before ++ [(space, declaration)]) empty).2
      ((∃ extended, catalog.add space declaration = .ok (name, extended)) ↔
        name ∉ accepted answers) ∧
      (∀ extended, catalog.add space declaration = .ok (name, extended) →
        later = extended ∧ later.size = catalog.size + 1 ∧
        ∀ category other, later.provider.declaration? category other =
          if category = declaration.category ∧ other = name then some declaration
          else catalog.provider.declaration? category other) ∧
      (name ∈ accepted answers →
        catalog.add space declaration = .error (.declaredTwice name) ∧ later = catalog)) ∧
    (∀ name first second, catalog.provider.declaration? first name ≠ none →
      catalog.provider.declaration? second name ≠ none → first = second) ∧
    catalog.size = (accepted answers).length ∧
    (∀ operations, ∀ answer ∈ (Registry.run catalog.provider operations .empty).1, ∀ name,
      answer ≠ .error (.declaredTwice name)) ∧
    ∀ (space : String) (steps : List SchemaStep),
      let additions := SchemaStep.additions space steps
      let schema := SchemaDraft.afterSteps space steps
      (∀ last, schema.toCatalog = .ok last ↔
        (additions.map nameOf).Nodup ∧ (addEach additions empty).2 = last) ∧
      ∀ reason, schema.toCatalog = .error reason ↔
        ∃ early addition late, additions = early ++ addition :: late ∧
          (early.map nameOf).Nodup ∧ nameOf addition ∈ early.map nameOf ∧
          reason = .declaredTwice (nameOf addition) := by
  intro answers catalog
  have names : catalog.names.Perm (accepted answers) := names_addEach empty before
  refine ⟨addEach_answers empty before, ?_, fun _ _ _ => category_unique, ?_, ?_,
    fun space steps => ⟨fun _ => SchemaDraft.toCatalog_eq_ok_iff space steps,
      fun _ => SchemaDraft.toCatalog_eq_error_iff space steps⟩⟩
  · intro space declaration name later
    have later_eq : later = (addEach [(space, declaration)] catalog).2 :=
      addEach_append empty before _
    have way := addition catalog space declaration
    rw [← names.mem_iff, later_eq, addEach]
    generalize catalog.add space declaration = answer at way ⊢
    cases way with
    | refused taken =>
      refine ⟨by simpa using taken, ?_, fun _ => ⟨rfl, rfl⟩⟩
      rintro _ ⟨⟩
    | accepted free =>
      refine ⟨⟨fun _ => free, fun _ => ⟨_, rfl⟩⟩, ?_, fun taken => absurd taken free⟩
      rintro _ ⟨⟩
      exact ⟨rfl, size_insert declaration free, declaration?_insert declaration free⟩
  · rw [← length_names, names.length_eq]
  · intro operations answer mem name failed
    exact catalog.not_caused_declaredTwice name
      (Registry.run_caused catalog.provider .empty operations mem failed)

end Catalog

namespace Registry

variable {space : String} {declaration : Declaration} {name : QualifiedName} {extended : Catalog}

/-- What a catalog has accepted is there for good. Unless its name is one of those that are never
looked up, the name stands for a type of the declared category at any time in a session, or an error
tells what is wrong with the declaration. -/
theorem registered_resolves (before after : List (String × Declaration))
    (added : (addEach before .empty).2.add space declaration = .ok (name, extended))
    (history : List Operation) :
    let provider := (addEach after extended).2.provider
    let answer := ((run provider history empty).2.resolve provider name).1
    (name.isPrimitive = false →
      (∃ type, answer = .ok (some type) ∧ declaration.build name = .ok type ∧
        type.category? = some declaration.category) ∨
      ∃ reason, answer = .error reason ∧ declaration.build name = .error reason ∧
        declaration.Faults name reason) ∧
    (name.isPrimitive = true →
      answer = .ok ((PrimitiveKind.ofQualifiedName? name).map .primitive)) := by
  intro provider answer
  refine ⟨fun outside => ?_, fun primitive => ?_⟩
  · have way := addition (addEach before .empty).2 space declaration
    rw [added] at way
    have declared :
        extended.provider.declaration? declaration.category name = some declaration := by
      cases way with
      | accepted free => rw [declaration?_insert, if_pos ⟨rfl, rfl⟩]
    have only : provider.DeclaresOnly name declaration.category declaration :=
      declaresOnly (declaration?_addEach extended after declared)
    have published : Published provider (run provider history empty).2 :=
      (published_empty provider).evolve (run_evolves provider empty history)
    have answered : answer = (declaration.build name).map some :=
      resolve_of_declaresOnly published outside only
    cases built : declaration.build name with
    | ok type =>
      rw [built] at answered
      exact .inl ⟨type, answered, rfl, Declaration.category?_build built⟩
    | error reason =>
      rw [built] at answered
      exact .inr ⟨reason, answered, rfl, Declaration.faults_of_build built⟩
  · exact congrArg Prod.fst (if_pos primitive)

/-- A complex type that is added between two enumerations. -/
def sampleAddress : Declaration := .complex { name := "Address" }

/-- A catalog with a complex type and an enumeration before it. -/
def sampleCatalog : Catalog :=
  (addEach [("model", .enumeration { name := "Color" }), ("model", sampleAddress)] .empty).2

theorem registered_resolves_sample :
    let after := [("other", Declaration.enumeration { name := "Address" })]
    let provider := (addEach after sampleCatalog).2.provider
    let history := [.scalarType ⟨"other", "Address"⟩, .entityType ⟨"model", "Address"⟩]
    (addEach [("model", .enumeration { name := "Color" })] .empty).2.add "model" sampleAddress =
        .ok (⟨"model", "Address"⟩, sampleCatalog) ∧
      ∃ type, ((run provider history empty).2.resolve provider ⟨"model", "Address"⟩).1 =
        .ok (some type) ∧ type.category? = some .complex := by
  intro after provider history
  have added : (addEach [("model", .enumeration { name := "Color" })] .empty).2.add "model"
      sampleAddress = .ok (⟨"model", "Address"⟩, sampleCatalog) := rfl
  refine ⟨added, ?_⟩
  obtain ⟨type, answered, -, category⟩ | ⟨reason, -, failed, -⟩ :=
    (registered_resolves _ after added history).1 rfl
  · exact ⟨type, answered, category⟩
  · cases failed

/-- A catalog also accepts names in the namespace of the primitive types, but they are never looked
up. -/
theorem registered_out_of_reach : ¬ ∀ (before after : List (String × Declaration))
    (space : String) (declaration : Declaration) (name : QualifiedName) (extended : Catalog),
    (addEach before .empty).2.add space declaration = .ok (name, extended) →
    ∀ history : List Operation,
      let provider := (addEach after extended).2.provider
      ((run provider history empty).2.resolve provider name).1 ≠ .ok none := by
  intro reachable
  exact reachable [] [] "Edm" (.enumeration { name := "Foo" }) (.primitive "Foo") _ rfl [] rfl

end Registry

end EntityModel
