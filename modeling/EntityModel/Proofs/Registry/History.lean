import EntityModel.Proofs.Outcome
import EntityModel.Proofs.Registry.Transparency

/-!
Sessions with a registry. Whatever was asked before, every answer is the one that the same question
gets from a registry without a history.
-/

set_option autoImplicit false

namespace EntityModel

variable {provider : Provider} {registry : Registry}

open Registry

/-- One operation: the answer is what the declarations say, and the registry stays sound. -/
theorem Operation.perform_agrees (sound : Sound provider registry) (operation : Operation)
    (offered : ∀ type ∈ operation.subject?, provider.Offers type) :
    Agrees provider (operation.perform provider registry) (operation.meaning provider) := by
  cases operation with
  | resolve name => exact (resolve_agrees sound name).map _
  | enumeration name => exact ((resolve_agrees sound name).map _).map _
  | complexType name => exact (resolveStructured_agrees sound .complex name).map _
  | entityType name => exact (resolveStructured_agrees sound .entity name).map _
  | scalarType name =>
    refine ((resolve_agrees sound name).bind ?_).map _
    rintro (_ | ⟨_ | _ | _⟩) registry sound <;> exact ⟨rfl, sound⟩
  | baseType type => exact (baseType_agrees sound (offered type rfl)).map _
  | element type name => exact (element_agrees sound (offered type rfl) name).map _
  | property type name => exact ((element_agrees sound (offered type rfl) name).map _).map _
  | navigation type name => exact ((element_agrees sound (offered type rfl) name).map _).map _
  | propertyNames type => exact ((bases_agrees sound (offered type rfl)).map _).map _
  | navigationNames type => exact ((bases_agrees sound (offered type rfl)).map _).map _
  | keyNames type =>
    refine Agrees.map _ ?_
    unfold Registry.keyNames
    split
    · exact ⟨rfl, sound⟩
    · exact (bases_agrees sound (offered type rfl)).map _
  | isDerivedFrom type other =>
    refine Agrees.map _ ?_
    unfold Registry.isDerivedFrom
    split
    · exact ⟨rfl, sound⟩
    · exact (bases_agrees sound (offered type rfl)).map _
  | propertyType declared =>
    refine ((resolve_agrees sound declared.type).bind ?_).map _
    rintro (_ | _) registry sound <;> exact ⟨rfl, sound⟩
  | navigationTarget declared =>
    refine ((resolveStructured_agrees sound .entity declared.target).bind ?_).map _
    rintro (_ | _) registry sound <;> exact ⟨rfl, sound⟩

/-- Every structured type that is handed out is the one that is declared under its name. -/
theorem Operation.offers_of_meaning {operation : Operation} {reply : Reply}
    {type : StructuredType} (means : operation.meaning provider = .ok reply)
    (handed : reply.structured? = some type) : provider.Offers type := by
  cases operation with
  | resolve name =>
    obtain ⟨found, resolved, rfl⟩ := map_eq_ok_iff.1 means
    rcases found with _ | ⟨_ | _ | found⟩ <;> cases handed
    exact (Provider.resolve_structured resolved).2
  | complexType name | entityType name =>
    obtain ⟨found, resolved, rfl⟩ := map_eq_ok_iff.1 means
    cases handed
    exact (Provider.resolveStructured_eq_some resolved).2.2
  | baseType derived =>
    obtain ⟨_, heads, rfl⟩ := map_eq_ok_iff.1 means
    obtain ⟨bases, found, rfl⟩ := map_eq_ok_iff.1 heads
    cases bases <;> cases handed
    exact (Provider.bases_of_cons found).1
  | propertyType declared =>
    obtain ⟨found, resolved, rfl⟩ := map_eq_ok_iff.1 means
    obtain ⟨outcome, resolved, same⟩ := bind_eq_ok_iff.1 resolved
    rcases outcome with _ | found <;> cases same
    rcases found with _ | _ | found <;> cases handed
    exact (Provider.resolve_structured resolved).2
  | navigationTarget declared =>
    obtain ⟨found, resolved, rfl⟩ := map_eq_ok_iff.1 means
    obtain ⟨outcome, resolved, same⟩ := bind_eq_ok_iff.1 resolved
    rcases outcome with _ | found <;> cases same
    cases handed
    exact (Provider.resolveStructured_eq_some resolved).2.2
  | enumeration _ | scalarType _ | element _ _ | property _ _ | navigation _ _
  | propertyNames _ | navigationNames _ | keyNames _ | isDerivedFrom _ _ =>
    obtain ⟨_, -, rfl⟩ := map_eq_ok_iff.1 means
    cases handed

namespace Registry

/-- A session on a sound registry: every answer is that of a registry without a history. -/
theorem run_answers (sound : Sound provider registry) (known : List StructuredType)
    (offered : ∀ type ∈ known, provider.Offers type) (operations : List Operation)
    (permitted : Permits provider known registry operations) :
    (run provider operations registry).1 =
        operations.map (fun operation => (operation.perform provider empty).1) ∧
      Sound provider (run provider operations registry).2 := by
  induction operations generalizing known registry with
  | nil => exact ⟨rfl, sound⟩
  | cons operation rest ih =>
    obtain ⟨asked, permitted⟩ := permitted
    have subject : ∀ type ∈ operation.subject?, provider.Offers type :=
      fun type mem => offered type (asked type mem)
    have ⟨answered, sound'⟩ := operation.perform_agrees sound subject
    have fresh := (operation.perform_agrees sound_empty subject).1
    -- What is handed out is declared, so later operations may ask about it.
    have known' : ∀ type ∈ handedOut (operation.perform provider registry).1 ++ known,
        provider.Offers type := by
      intro type mem
      rcases List.mem_append.1 mem with mem | mem
      · rw [answered] at mem
        cases means : operation.meaning provider with
        | error reason => rw [means] at mem; cases mem
        | ok reply =>
          rw [means] at mem
          exact operation.offers_of_meaning means (Option.mem_toList.1 mem)
      · exact offered type mem
    have ⟨answers, sound''⟩ := ih sound' _ known' permitted
    exact ⟨List.cons_eq_cons.2 ⟨answered.trans fresh.symm, answers⟩, sound''⟩

/-- In every session that begins with nothing known, each answer is the one that the same operation
gets from a registry of its own. -/
theorem session_answers_eq_fresh (provider : Provider) (operations : List Operation)
    (permitted : Permits provider [] empty operations) :
    (run provider operations empty).1 =
      operations.map fun operation => (operation.perform provider empty).1 :=
  (run_answers sound_empty [] (by simp) operations permitted).1

/-- An entity type, one derived from it, and a complex type whose base type is not declared. -/
def sampleProvider : Provider where
  enumeration? _ := none
  complex? name :=
    if name = ⟨"n", "Lost"⟩ then some { name := "Lost", baseType := some ⟨"n", "Gone"⟩ } else none
  entity? name :=
    if name = ⟨"n", "Person"⟩ then
      some {
        name := "Person", key := ["Id"],
        properties := [{ name := "Id", type := .primitive "Int32" }] }
    else if name = ⟨"n", "Employee"⟩ then
      some { name := "Employee", baseType := some ⟨"n", "Person"⟩ }
    else none

def samplePerson : StructuredType where
  name := ⟨"n", "Person"⟩
  category := .entity
  baseType := none
  isAbstract := false
  isOpen := false
  hasStream := false
  key := ["Id"]
  elements := [.property { name := "Id", type := .primitive "Int32" }]
  distinct := by decide

def sampleEmployee : StructuredType :=
  { samplePerson with
    name := ⟨"n", "Employee"⟩, baseType := some samplePerson.name, key := [], elements := []
    distinct := by decide }

def sampleLost : StructuredType :=
  { sampleEmployee with
    name := ⟨"n", "Lost"⟩, category := .complex, baseType := some ⟨"n", "Gone"⟩ }

/-- Inherited elements before and after they are remembered, and a type whose base types cannot be
found. -/
def sampleSession : List Operation :=
  [.entityType sampleEmployee.name, .element sampleEmployee "Id", .baseType sampleEmployee,
    .element samplePerson "Id", .complexType sampleLost.name, .propertyNames sampleLost,
    .keyNames sampleEmployee, .element sampleEmployee "Id", .propertyNames sampleLost]

theorem sampleSession_answers_eq_fresh :
    Permits sampleProvider [] empty sampleSession ∧
      (run sampleProvider sampleSession empty).1 =
        sampleSession.map fun operation => (operation.perform sampleProvider empty).1 := by
  have permitted : Permits sampleProvider [] empty sampleSession := by decide +kernel
  exact ⟨permitted, session_answers_eq_fresh sampleProvider sampleSession permitted⟩

end Registry

end EntityModel
