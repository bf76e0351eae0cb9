import EntityModel.Proofs.Registry.Ascent
import EntityModel.Registry.Session

/-!
What a registry remembers does not show in its answers. `Operation.meaning` answers from the
declarations alone; a registry is sound if all that it remembers was answered that way. Every
operation on a sound registry gives this answer and leaves a sound registry, also when it fails, so
in every session each answer is the one of a registry that remembers nothing.
-/

set_option autoImplicit false

namespace EntityModel

/-- The answer to an operation without a memory. -/
def Operation.meaning (provider : Provider) : Operation → Except SchemaError Reply
  | resolve name => (provider.resolve name).map .type
  | enumeration name =>
    ((provider.resolve name).map fun
      | some (.enumeration found) => some found
      | _ => none).map .enumeration
  | complexType name => (provider.resolveStructured .complex name).map .structured
  | entityType name => (provider.resolveStructured .entity name).map .structured
  | scalarType name =>
    ((provider.resolve name).bind fun
      | some (.primitive kind) => .ok (.primitive kind)
      | some (.enumeration found) => .ok (.enumeration found)
      | some (.structured _) => .error (.notScalar name)
      | none => .error (.undeclared name .scalarType)).map .scalar
  | baseType type => ((provider.bases type).map List.head?).map .structured
  | element type name => (provider.element type name).map .element
  | property type name =>
    ((provider.element type name).map (·.bind Element.property?)).map .property
  | navigation type name =>
    ((provider.element type name).map (·.bind Element.navigation?)).map .navigation
  | propertyNames type =>
    ((provider.bases type).map (type.listNames StructuredType.ownProperties)).map .names
  | navigationNames type =>
    ((provider.bases type).map (type.listNames StructuredType.ownNavigations)).map .names
  | keyNames type =>
    (if type.key ≠ [] then .ok type.key else (provider.bases type).map type.keyAlong).map .names
  | isDerivedFrom type other =>
    (if type.name = other then .ok true
      else (provider.bases type).map (·.any (·.name == other))).map .truth
  | propertyType declared =>
    ((provider.resolve declared.type).bind fun
      | some found => .ok found
      | none => .error (.undeclared declared.type .propertyType)).map fun found =>
        .type (some found)
  | navigationTarget declared =>
    ((provider.resolveStructured .entity declared.target).bind fun
      | some found => .ok found
      | none => .error (.undeclared declared.target .navigationTarget)).map fun found =>
        .structured (some found)

namespace Provider

variable {provider : Provider}

/-- A name that a type does not declare means in it what it means in its base type. -/
theorem element_of_base {type base : StructuredType} {above : List StructuredType} {name : String}
    (inherited : type.own? name = none) (found : provider.bases type = .ok (base :: above)) :
    provider.element type name = provider.element base name := by
  simp only [element, inherited, found, (bases_of_cons found).2.2]
  cases own : base.own? name <;> simp [Except.map, own]

end Provider

namespace Registry

variable {provider : Provider} {registry : Registry}

/-- All that is remembered is what the declarations say. -/
structure Sound (provider : Provider) (registry : Registry) : Prop where
  known {name : QualifiedName} {type : ModelType} : registry.known? name = some type →
    provider.resolve name = .ok (some type)
  baseTypes {type : StructuredType} {bases : List StructuredType} : provider.Offers type →
    registry.baseTypes.lookup type.name = some bases → provider.bases type = .ok bases
  elements {type : StructuredType} {name : String} {element : Element} : provider.Offers type →
    registry.elements.lookup (type.name, name) = some element →
    provider.element type name = .ok (some element)

theorem sound_empty : Sound provider empty := by
  constructor <;> simp [empty, known?]

theorem Sound.ask (sound : Sound provider registry) (name : QualifiedName) :
    Sound provider (registry.ask name) :=
  ⟨sound.known, sound.baseTypes, sound.elements⟩

/-- Keeping a type adds nothing but that type under its name. -/
theorem known?_keep {name other : QualifiedName} {type found : ModelType}
    (known : (registry.keep name type).known? other = some found) :
    registry.known? other = some found ∨ other = name ∧ found = type := by
  by_cases same : other = name
  · subst same
    cases type with
    | primitive kind => exact .inl known
    | enumeration type =>
      right
      simpa [keep, known?, eq_comm] using known
    | structured type =>
      -- A type of an earlier category under this name would still hide the new one.
      revert known
      cases category : type.category <;>
        simp only [keep, category, known?, List.lookup_cons, beq_self_eq_true]
      · cases registry.enumerations.lookup other <;> simp +contextual [eq_comm]
      · cases registry.enumerations.lookup other <;>
          cases registry.complexTypes.lookup other <;> simp +contextual [eq_comm]
  · left
    have apart : (other == name) = false := beq_false_of_ne same
    cases type with
    | primitive kind => exact known
    | enumeration type => simpa only [keep, known?, List.lookup_cons, apart] using known
    | structured type =>
      cases category : type.category <;>
        simpa only [keep, category, known?, List.lookup_cons, apart] using known

theorem Sound.keep (sound : Sound provider registry) {name : QualifiedName} {type : ModelType}
    (declared : provider.resolve name = .ok (some type)) :
    Sound provider (registry.keep name type) := by
  have unchanged : (registry.keep name type).baseTypes = registry.baseTypes ∧
      (registry.keep name type).elements = registry.elements := by
    cases type with
    | primitive kind => exact ⟨rfl, rfl⟩
    | enumeration type => exact ⟨rfl, rfl⟩
    | structured type => cases category : type.category <;> simp [Registry.keep, category]
  refine ⟨fun known => ?_, fun offered => ?_, fun offered => ?_⟩
  · rcases known?_keep known with known | ⟨rfl, rfl⟩
    · exact sound.known known
    · exact declared
  · rw [unchanged.1]
    exact sound.baseTypes offered
  · rw [unchanged.2]
    exact sound.elements offered

theorem Sound.rememberBases (sound : Sound provider registry) {type : StructuredType}
    {bases : List StructuredType} (offered : provider.Offers type)
    (found : provider.bases type = .ok bases) :
    Sound provider { registry with baseTypes := (type.name, bases) :: registry.baseTypes } := by
  refine ⟨sound.known, fun {other others} known lookup => ?_, sound.elements⟩
  rw [List.lookup_cons] at lookup
  -- Two types of one name that are both declared are one type.
  by_cases same : other.name = type.name
  · rw [same, beq_self_eq_true] at lookup
    cases lookup
    rwa [known.eq_of_name offered same]
  · rw [beq_false_of_ne same] at lookup
    exact sound.baseTypes known lookup

theorem Sound.remember (sound : Sound provider registry) {type : StructuredType} {name : String}
    {element : Element} (offered : provider.Offers type)
    (found : provider.element type name = .ok (some element)) :
    Sound provider (registry.remember type.name name element) := by
  refine ⟨sound.known, sound.baseTypes, fun {other key element'} known lookup => ?_⟩
  rw [Registry.remember, List.lookup_cons] at lookup
  by_cases same : (other.name, key) = (type.name, name)
  · rw [same, beq_self_eq_true] at lookup
    cases lookup
    obtain ⟨sameType, sameKey⟩ := Prod.mk.inj same
    rwa [known.eq_of_name offered sameType, sameKey]
  · rw [beq_false_of_ne same] at lookup
    exact sound.elements known lookup

/-- An answer is the expected one and leaves a sound registry. -/
def Agrees (provider : Provider) {α : Type} (answer : Answer α)
    (expected : Except SchemaError α) : Prop :=
  answer.1 = expected ∧ Sound provider answer.2

section

variable {α β : Type} {answer : Answer α} {expected : Except SchemaError α}

theorem Agrees.andThen {next : α → Registry → Answer β} {total : Except SchemaError β}
    (agrees : Agrees provider answer expected)
    (goesOn : ∀ a registry, expected = .ok a → Sound provider registry →
      Agrees provider (next a registry) total)
    (fails : ∀ reason, expected = .error reason → total = .error reason) :
    Agrees provider (answer.andThen next) total := by
  obtain ⟨outcome, registry⟩ := answer
  obtain ⟨rfl, sound⟩ := agrees
  cases outcome with
  | error reason => exact ⟨(fails reason rfl).symm, sound⟩
  | ok a => exact goesOn a registry rfl sound

theorem Agrees.bind {next : α → Registry → Answer β} {rest : α → Except SchemaError β}
    (agrees : Agrees provider answer expected)
    (goesOn : ∀ a registry, Sound provider registry → Agrees provider (next a registry) (rest a)) :
    Agrees provider (answer.andThen next) (expected.bind rest) := by
  refine agrees.andThen ?_ ?_
  · rintro a registry rfl sound
    exact goesOn a registry sound
  · rintro reason rfl
    rfl

theorem Agrees.map (f : α → β) (agrees : Agrees provider answer expected) :
    Agrees provider (answer.map f) (expected.map f) := by
  obtain ⟨outcome, registry⟩ := answer
  obtain ⟨rfl, sound⟩ := agrees
  cases outcome <;> exact ⟨rfl, sound⟩

end

theorem resolve_agrees (sound : Sound provider registry) (name : QualifiedName) :
    Agrees provider (registry.resolve provider name) (provider.resolve name) := by
  unfold Registry.resolve
  split
  · next primitive => exact ⟨by rw [Provider.resolve, if_pos primitive], sound⟩
  next other =>
  have declared : provider.resolve name = provider.declared? name := by
    rw [Provider.resolve, if_neg other]
  split
  · next type known => exact ⟨(sound.known known).symm, sound⟩
  split
  · next type found =>
    exact ⟨(declared.trans found).symm, (sound.ask name).keep (declared.trans found)⟩
  · exact ⟨declared.symm, sound.ask name⟩

theorem resolveStructured_agrees (sound : Sound provider registry) (category : StructuredCategory)
    (name : QualifiedName) :
    Agrees provider (registry.resolveStructured provider category name)
      (provider.resolveStructured category name) :=
  (resolve_agrees sound name).map _

theorem basesFrom_agrees (origin : StructuredType) (depth : Nat) (seen : List QualifiedName)
    (next : Option QualifiedName) (sound : Sound provider registry) :
    Agrees provider (registry.basesFrom provider origin depth seen next)
      (provider.basesFrom origin depth seen next) := by
  induction depth generalizing seen next registry with
  | zero => cases next <;> exact ⟨rfl, sound⟩
  | succ depth ih =>
    cases next with
    | none => exact ⟨rfl, sound⟩
    | some next =>
      rw [Registry.basesFrom, Provider.basesFrom]
      by_cases old : next ∈ seen
      · rw [if_pos old, if_pos old]
        exact ⟨rfl, sound⟩
      rw [if_neg old, if_neg old]
      refine (resolveStructured_agrees sound origin.category next).andThen ?_ ?_
      · rintro (_ | type) registry resolved sound
        · rw [resolved]
          exact ⟨rfl, sound⟩
        · rw [resolved]
          exact (ih (next :: seen) type.baseType sound).map (type :: ·)
      · intro reason resolved
        rw [resolved]

theorem bases_agrees (sound : Sound provider registry) {type : StructuredType}
    (offered : provider.Offers type) :
    Agrees provider (registry.bases provider type) (provider.bases type) := by
  unfold Registry.bases
  split
  · next bases lookup => exact ⟨(sound.baseTypes offered lookup).symm, sound⟩
  · refine (basesFrom_agrees type maxBaseTypes [type.name] type.baseType sound).andThen ?_ ?_
    · intro bases registry found sound
      exact ⟨found.symm, sound.rememberBases offered found⟩
    · exact fun reason found => found

theorem baseType_agrees (sound : Sound provider registry) {type : StructuredType}
    (offered : provider.Offers type) :
    Agrees provider (registry.baseType provider type) ((provider.bases type).map List.head?) :=
  (bases_agrees sound offered).map List.head?

/-- The look-up goes through the base types one by one, each with a memory of its own. It is enough
to go as deep as there are base types. -/
theorem elementWithin_agrees (name : String) (depth : Nat) {type : StructuredType}
    (sound : Sound provider registry) (offered : provider.Offers type)
    (enough : ∀ bases, provider.bases type = .ok bases → bases.length ≤ depth) :
    Agrees provider (elementWithin provider name depth type registry)
      (provider.element type name) := by
  induction depth using Nat.strongRecOn generalizing type registry with
  | ind depth ih =>
  unfold elementWithin
  split
  · next element lookup => exact ⟨(sound.elements offered lookup).symm, sound⟩
  split
  · next element own =>
    have found : provider.element type name = .ok (some element) := by rw [Provider.element, own]
    exact ⟨found.symm, sound.remember offered found⟩
  next inherited =>
  refine (baseType_agrees sound offered).andThen ?_ ?_
  · intro base registry first sound
    cases found : provider.bases type with
    | error reason => rw [found] at first; cases first
    | ok bases =>
    rw [found] at first
    cases first
    cases bases with
    | nil =>
      refine ⟨?_, sound⟩
      simp [Provider.element, inherited, found, Except.map]
    | cons base above =>
      have short := enough _ found
      cases depth with
      | zero => simp at short
      | succ depth =>
      -- The base type has one base type less, and its look-up one step less to go.
      have ⟨offered', _, rest⟩ := Provider.bases_of_cons found
      rw [Provider.element_of_base inherited found]
      refine (ih depth (Nat.lt_succ_self depth) sound offered' ?_).andThen ?_ ?_
      · intro bases again
        rw [rest] at again
        cases again
        simpa using short
      · rintro (_ | element) registry meant sound
        · exact ⟨meant.symm, sound⟩
        · refine ⟨meant.symm, sound.remember offered ?_⟩
          rw [Provider.element_of_base inherited found, meant]
      · exact fun reason meant => meant
  · intro reason failed
    cases found : provider.bases type with
    | ok bases => rw [found] at failed; cases failed
    | error reason' =>
      rw [found] at failed
      cases failed
      simp [Provider.element, inherited, found, Except.map]

theorem element_agrees (sound : Sound provider registry) {type : StructuredType}
    (offered : provider.Offers type) (name : String) :
    Agrees provider (registry.element provider type name) (provider.element type name) :=
  elementWithin_agrees name maxBaseTypes sound offered fun bases found =>
    ((Provider.bases_eq_ok_iff type bases).1 found).2.1

end Registry

end EntityModel
