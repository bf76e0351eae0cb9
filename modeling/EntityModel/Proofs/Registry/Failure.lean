import EntityModel.Proofs.Registry.Publication

/-!
Why operations fail. The errors of an operation are its own, about a chain of base types or about a
name that is not declared as it should be, or else what the provider says about one name.
-/

set_option autoImplicit false

namespace EntityModel.Registry

/-- An error has a cause: what was looked up is not there, is not usable or goes on in a circle, or
the declarations of a name do not describe a type. -/
inductive Cause (provider : Provider) : SchemaError → Prop where
  | undeclared (name : QualifiedName) (role : ReferenceRole) :
      Cause provider (.undeclared name role)
  | cyclicBases (name : QualifiedName) : Cause provider (.cyclicBases name)
  | notScalar (name : QualifiedName) : Cause provider (.notScalar name)
  | declared {name : QualifiedName} {reason : SchemaError} :
      provider.declared? name = .error reason → Cause provider reason

/-- If an answer is an error, the error has a cause. -/
def Caused {α : Type} (provider : Provider) (answer : Answer α) : Prop :=
  ∀ reason, answer.1 = .error reason → Cause provider reason

variable {α β : Type} {provider : Provider} {answer : Answer α} {registry : Registry}

theorem caused_ok (a : α) (registry : Registry) : Caused provider (.ok a, registry) := by
  rintro reason ⟨⟩

theorem caused_error {reason : SchemaError} (cause : Cause provider reason) (registry : Registry) :
    Caused provider ((.error reason, registry) : Answer α) := by
  rintro _ ⟨⟩
  exact cause

theorem Caused.andThen {next : α → Registry → Answer β} (first : Caused provider answer)
    (rest : ∀ a middle, Caused provider (next a middle)) :
    Caused provider (answer.andThen next) := by
  obtain ⟨outcome, middle⟩ := answer
  cases outcome with
  | ok a => exact rest a middle
  | error reason => exact caused_error (first reason rfl) middle

theorem Caused.map (f : α → β) (first : Caused provider answer) :
    Caused provider (answer.map f) :=
  first.andThen fun a middle => caused_ok (f a) middle

variable (provider registry)

theorem resolve_caused (name : QualifiedName) :
    Caused provider (registry.resolve provider name) := by
  have way := resolution provider name registry
  generalize registry.resolve provider name = answer at way ⊢
  cases way with
  | primitive | published | built => exact caused_ok _ _
  | unpublished => exact fun reason failed => .declared failed

theorem resolveStructured_caused (category : StructuredCategory) (name : QualifiedName) :
    Caused provider (registry.resolveStructured provider category name) :=
  (resolve_caused provider registry name).map _

theorem basesFrom_caused (origin : StructuredType) (depth : Nat) (seen : List QualifiedName)
    (next : Option QualifiedName) :
    Caused provider (registry.basesFrom provider origin depth seen next) := by
  induction depth generalizing registry seen next with
  | zero =>
    cases next with
    | none => exact caused_ok [] registry
    | some next => exact caused_error (.cyclicBases origin.name) registry
  | succ depth ih =>
    cases next with
    | none => exact caused_ok [] registry
    | some next =>
      rw [basesFrom]
      split
      · exact caused_error (.cyclicBases origin.name) registry
      refine (resolveStructured_caused provider registry origin.category next).andThen ?_
      rintro (_ | type) middle
      · exact caused_error (.undeclared next .baseType) middle
      · exact (ih middle (next :: seen) type.baseType).map _

theorem bases_caused (type : StructuredType) : Caused provider (registry.bases provider type) := by
  unfold Registry.bases
  split
  · exact caused_ok _ registry
  · exact (basesFrom_caused provider registry type maxBaseTypes _ _).andThen fun bases middle =>
      caused_ok bases _

theorem elementWithin_caused (name : String) (depth : Nat) (type : StructuredType) :
    Caused provider (elementWithin provider name depth type registry) := by
  induction depth using Nat.strongRecOn generalizing registry type with
  | ind depth ih =>
  unfold elementWithin
  split
  · exact caused_ok _ registry
  split
  · exact caused_ok _ _
  refine ((bases_caused provider registry type).map List.head?).andThen ?_
  rintro (_ | base) middle
  · exact caused_ok none middle
  -- The look-up goes on in the base type if it may go deeper at all.
  cases depth with
  | zero => exact caused_error (.cyclicBases type.name) middle
  | succ depth =>
    refine (ih depth (Nat.lt_succ_self depth) middle base).andThen ?_
    rintro (_ | element) last <;> exact caused_ok _ _

theorem perform_caused (operation : Operation) :
    Caused provider (operation.perform provider registry) := by
  cases operation with
  | resolve name => exact (resolve_caused provider registry name).map _
  | enumeration name => exact ((resolve_caused provider registry name).map _).map _
  | complexType name | entityType name =>
    exact (resolveStructured_caused provider registry _ name).map _
  | scalarType name =>
    refine ((resolve_caused provider registry name).andThen ?_).map _
    rintro (_ | ⟨_ | _ | _⟩) middle
    · exact caused_error (.undeclared name .scalarType) middle
    · exact caused_ok _ middle
    · exact caused_ok _ middle
    · exact caused_error (.notScalar name) middle
  | baseType type => exact ((bases_caused provider registry type).map _).map _
  | element type name => exact (elementWithin_caused provider registry name _ type).map _
  | property type name | navigation type name =>
    exact ((elementWithin_caused provider registry name _ type).map _).map _
  | propertyNames type | navigationNames type =>
    exact ((bases_caused provider registry type).map _).map _
  | keyNames type =>
    refine Caused.map _ ?_
    unfold keyNames
    split
    · exact caused_ok _ registry
    · exact (bases_caused provider registry type).map _
  | isDerivedFrom type other =>
    refine Caused.map _ ?_
    unfold isDerivedFrom
    split
    · exact caused_ok true registry
    · exact (bases_caused provider registry type).map _
  | propertyType property =>
    refine ((resolve_caused provider registry property.type).andThen ?_).map _
    rintro (_ | type) middle
    · exact caused_error (.undeclared property.type .propertyType) middle
    · exact caused_ok type middle
  | navigationTarget navigation =>
    refine ((resolveStructured_caused provider registry .entity navigation.target).andThen ?_).map _
    rintro (_ | type) middle
    · exact caused_error (.undeclared navigation.target .navigationTarget) middle
    · exact caused_ok type middle

/-- Every error in a session has a cause. -/
theorem run_caused (operations : List Operation) {answer : Except SchemaError Reply}
    (mem : answer ∈ (run provider operations registry).1) {reason : SchemaError}
    (failed : answer = .error reason) : Cause provider reason := by
  induction operations generalizing registry with
  | nil => cases mem
  | cons operation rest ih =>
    rcases List.mem_cons.1 mem with rfl | mem
    · exact perform_caused provider registry operation reason failed
    · exact ih _ mem

end EntityModel.Registry
