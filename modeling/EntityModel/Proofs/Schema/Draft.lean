import EntityModel.Proofs.Schema.Catalog
import EntityModel.Schema.Draft

/-!
What a schema in the making comes to. Its declarations are those that its steps make, each in the
namespace that was chosen last. They become a catalog exactly if all of their names differ, and this
is the catalog of the same additions made by hand; else the first name that is repeated is reported.
-/

set_option autoImplicit false

namespace EntityModel

open Catalog

/-- What can be done next with a schema in the making. -/
inductive SchemaStep where
  | inNamespace (space : String)
  | enumeration (draft : EnumerationDraft)
  | complexType (draft : StructuredDraft)
  | entityType (draft : StructuredDraft)

namespace SchemaStep

def perform (schema : SchemaDraft) : SchemaStep → SchemaDraft
  | inNamespace space => schema.inNamespace space
  | enumeration draft => schema.enumeration draft
  | complexType draft => schema.complexType draft
  | entityType draft => schema.entityType draft

/-- The namespace after a step. -/
def spaceAfter (current : String) : SchemaStep → String
  | inNamespace space => space
  | enumeration _ | complexType _ | entityType _ => current

/-- What a step declares in the current namespace. -/
def declared? (current : String) : SchemaStep → Option Declaration
  | inNamespace _ => none
  | enumeration draft => some (.enumeration (draft.complete current))
  | complexType draft => some (.complex (draft.complete current))
  | entityType draft => some (.entity (draft.complete current))

/-- The declarations that steps make, each with the namespace that is current when it is made. -/
def additions : (current : String) → List SchemaStep → List (String × Declaration)
  | _, [] => []
  | current, step :: rest =>
    ((step.declared? current).map (current, ·)).toList ++ additions (step.spaceAfter current) rest

theorem space_perform (schema : SchemaDraft) (step : SchemaStep) :
    (step.perform schema).space = step.spaceAfter schema.space := by
  cases step <;> rfl

theorem declarations_perform (schema : SchemaDraft) (step : SchemaStep) :
    (step.perform schema).declarations = schema.declarations ++
      ((step.declared? schema.space).map (schema.space, ·)).toList := by
  cases step with
  | inNamespace => exact (List.append_nil _).symm
  | enumeration | complexType | entityType => rfl

end SchemaStep

namespace SchemaDraft

/-- A schema in the making after steps from its first namespace on. -/
def afterSteps (space : String) (steps : List SchemaStep) : SchemaDraft :=
  steps.foldl SchemaStep.perform (start space)

theorem declarations_foldl (schema : SchemaDraft) (steps : List SchemaStep) :
    (steps.foldl SchemaStep.perform schema).declarations =
      schema.declarations ++ SchemaStep.additions schema.space steps := by
  induction steps generalizing schema with
  | nil => exact (List.append_nil _).symm
  | cons step rest ih =>
    rw [List.foldl_cons, ih, SchemaStep.declarations_perform, SchemaStep.space_perform,
      List.append_assoc]
    rfl

theorem declarations_afterSteps (space : String) (steps : List SchemaStep) :
    (afterSteps space steps).declarations = SchemaStep.additions space steps :=
  declarations_foldl (start space) steps

variable {catalog last : Catalog} {additions : List (String × Declaration)} {reason : SchemaError}

theorem not_nodup_of_taken {name : QualifiedName} {more : List QualifiedName}
    (taken : name ∈ catalog.names) : ¬ (catalog.names ++ name :: more).Nodup :=
  fun distinct => (List.nodup_append.1 distinct).2.2 _ taken _ List.mem_cons_self rfl

/-- Additions in order succeed if their names are new and differ. -/
theorem addAll_eq_ok_iff : addAll catalog additions = .ok last ↔
    (catalog.names ++ additions.map nameOf).Nodup ∧ (addEach additions catalog).2 = last := by
  induction additions generalizing catalog with
  | nil => simp [addAll, addEach, catalog.nodup_names]
  | cons next rest ih =>
    obtain ⟨space, declaration⟩ := next
    have way := addition catalog space declaration
    rw [addAll, addEach]
    generalize catalog.add space declaration = answer at way ⊢
    cases way with
    | refused taken =>
      simp only [reduceCtorEq, List.map_cons, not_nodup_of_taken taken, false_and]
    | accepted free =>
      dsimp only
      rw [ih, (names_insert_append declaration free _).nodup_iff]
      rfl

/-- Additions in order fail at the first one whose name is not new. -/
theorem addAll_eq_error_iff : addAll catalog additions = .error reason ↔
    ∃ early addition late, additions = early ++ addition :: late ∧
      (catalog.names ++ early.map nameOf).Nodup ∧
      nameOf addition ∈ catalog.names ++ early.map nameOf ∧
      reason = .declaredTwice (nameOf addition) := by
  induction additions generalizing catalog with
  | nil => simp [addAll]
  | cons next rest ih =>
    obtain ⟨space, declaration⟩ := next
    have way := addition catalog space declaration
    rw [addAll]
    generalize catalog.add space declaration = answer at way ⊢
    cases way with
    | refused taken =>
      dsimp only
      constructor
      · rintro failed
        cases failed
        exact ⟨[], (space, declaration), rest, rfl, by simpa using catalog.nodup_names,
          by simpa using taken, rfl⟩
      · rintro ⟨early, addition, late, split, distinct, repeated, rfl⟩
        cases early with
        | nil =>
          obtain ⟨rfl, -⟩ := List.cons.inj split
          rfl
        | cons first early =>
          obtain ⟨rfl, -⟩ := List.cons.inj split
          exact absurd distinct (not_nodup_of_taken taken)
    | accepted free =>
      dsimp only
      rw [ih]
      have moved (early : List (String × Declaration)) :=
        names_insert_append declaration free (early.map nameOf)
      constructor
      · rintro ⟨early, addition, late, rfl, distinct, repeated, rfl⟩
        rw [(moved early).nodup_iff] at distinct
        rw [(moved early).mem_iff] at repeated
        exact ⟨(space, declaration) :: early, addition, late, rfl, distinct, repeated, rfl⟩
      · rintro ⟨early, addition, late, split, distinct, repeated, rfl⟩
        cases early with
        | nil =>
          obtain ⟨rfl, -⟩ := List.cons.inj split
          exact absurd (by simpa using repeated) free
        | cons first early =>
          obtain ⟨rfl, rfl⟩ := List.cons.inj split
          exact ⟨early, addition, late, rfl, (moved early).nodup_iff.2 distinct,
            (moved early).mem_iff.2 repeated, rfl⟩

/-- A schema becomes the catalog that the same additions give one by one, if no name is repeated. -/
theorem toCatalog_eq_ok_iff (space : String) (steps : List SchemaStep) :
    (afterSteps space steps).toCatalog = .ok last ↔
      ((SchemaStep.additions space steps).map nameOf).Nodup ∧
        (addEach (SchemaStep.additions space steps) empty).2 = last := by
  rw [toCatalog, declarations_afterSteps]
  exact addAll_eq_ok_iff

theorem toCatalog_eq_error_iff (space : String) (steps : List SchemaStep) :
    (afterSteps space steps).toCatalog = .error reason ↔
      ∃ early addition late, SchemaStep.additions space steps = early ++ addition :: late ∧
        (early.map nameOf).Nodup ∧ nameOf addition ∈ early.map nameOf ∧
        reason = .declaredTwice (nameOf addition) := by
  rw [toCatalog, declarations_afterSteps]
  exact addAll_eq_error_iff

end SchemaDraft

end EntityModel
