import EntityModel.Proofs.QualifiedName
import EntityModel.Proofs.Schema.Draft

/-!
References as texts. A declaration can be put down as a draft in which every reference is the text
of the name that it refers to. Completing the draft gives the declaration back, whatever namespace is
current, exactly if all of these names can be told from their texts; and so it is for a whole schema.
-/

set_option autoImplicit false

namespace EntityModel

section Drafts

variable (current : String)

/-- The reference that is the text of a name. -/
def QualifiedName.reference (q : QualifiedName) : TypeReference := .written q.text

theorem QualifiedName.resolve_reference_iff {q : QualifiedName} :
    q.reference.resolve current = q ↔ q.IsReadable :=
  ofReference_text_iff

theorem QualifiedName.map_resolve_reference_iff {name : Option QualifiedName} :
    (name.map reference).map (·.resolve current) = name ↔
      ∀ q ∈ name.toList, q.IsReadable := by
  cases name <;> simp [resolve_reference_iff]

def Property.draft (property : Property) : PropertyDraft where
  name := property.name
  type := property.type.reference
  isCollection := property.isCollection
  facets := property.facets
  defaultValue := property.defaultValue

theorem Property.complete_draft_iff {property : Property} :
    property.draft.complete current = property ↔ property.type.IsReadable := by
  rw [← QualifiedName.resolve_reference_iff current]
  obtain ⟨⟩ := property
  simp [draft, PropertyDraft.complete]

def NavigationProperty.draft (navigation : NavigationProperty) : NavigationDraft where
  name := navigation.name
  target := navigation.target.reference
  isCollection := navigation.isCollection
  nullable := navigation.nullable
  partner := navigation.partner
  containsTarget := navigation.containsTarget

theorem NavigationProperty.complete_draft_iff {navigation : NavigationProperty} :
    navigation.draft.complete current = navigation ↔ navigation.target.IsReadable := by
  rw [← QualifiedName.resolve_reference_iff current]
  obtain ⟨⟩ := navigation
  simp [draft, NavigationDraft.complete]

def EnumerationDeclaration.draft (declaration : EnumerationDeclaration) : EnumerationDraft where
  name := declaration.name
  underlying := declaration.underlying.map QualifiedName.reference
  isFlags := declaration.isFlags
  members := declaration.members

theorem EnumerationDeclaration.complete_draft_iff {declaration : EnumerationDeclaration} :
    declaration.draft.complete current = declaration ↔
      ∀ q ∈ declaration.underlying.toList, q.IsReadable := by
  rw [← QualifiedName.map_resolve_reference_iff current]
  obtain ⟨⟩ := declaration
  simp [draft, EnumerationDraft.complete]

def StructuredDeclaration.draft (declaration : StructuredDeclaration) : StructuredDraft where
  name := declaration.name
  baseType := declaration.baseType.map QualifiedName.reference
  isAbstract := declaration.isAbstract
  isOpen := declaration.isOpen
  properties := declaration.properties.map Property.draft
  navigations := declaration.navigations.map NavigationProperty.draft
  key := declaration.key
  hasStream := declaration.hasStream

theorem map_eq_self_iff {α : Type} {f : α → α} {l : List α} :
    l.map f = l ↔ ∀ x ∈ l, f x = x := by
  calc l.map f = l
    _ ↔ l.map f = l.map id := by rw [List.map_id]
    _ ↔ ∀ x ∈ l, f x = x := List.map_inj_left

theorem StructuredDeclaration.complete_draft_iff {declaration : StructuredDeclaration} :
    declaration.draft.complete current = declaration ↔
      (∀ q ∈ declaration.baseType.toList, q.IsReadable) ∧
      (∀ property ∈ declaration.properties, property.type.IsReadable) ∧
      ∀ navigation ∈ declaration.navigations, navigation.target.IsReadable := by
  -- Each condition is that completing one part gives it back, and then the fields are compared.
  rw [← QualifiedName.map_resolve_reference_iff current]
  simp only [← Property.complete_draft_iff current,
    ← NavigationProperty.complete_draft_iff current, ← map_eq_self_iff]
  obtain ⟨⟩ := declaration
  simp [draft, StructuredDraft.complete, Function.comp_def]

/-- The names to which a declaration refers. -/
def Declaration.references : Declaration → List QualifiedName
  | enumeration declaration => declaration.underlying.toList
  | complex declaration | entity declaration =>
    declaration.baseType.toList ++ (declaration.properties.map Property.type ++
      declaration.navigations.map NavigationProperty.target)

/-- The step that makes a declaration, with its references as texts. -/
def Declaration.step : Declaration → SchemaStep
  | enumeration declaration => .enumeration declaration.draft
  | complex declaration => .complexType declaration.draft
  | entity declaration => .entityType declaration.draft

theorem Declaration.declared?_step_iff {declaration : Declaration} :
    declaration.step.declared? current = some declaration ↔
      ∀ q ∈ declaration.references, q.IsReadable := by
  cases declaration with
  | enumeration declaration =>
    simp [step, SchemaStep.declared?, references, EnumerationDeclaration.complete_draft_iff]
  | complex declaration | entity declaration =>
    simp only [step, SchemaStep.declared?, Option.some_inj, complex.injEq, entity.injEq, references,
      StructuredDeclaration.complete_draft_iff, List.forall_mem_append, List.forall_mem_map]

end Drafts

section Schemas

theorem Declaration.exists_declared?_step (current : String) (declaration : Declaration) :
    ∃ made, declaration.step.declared? current = some made := by
  cases declaration <;> exact ⟨_, rfl⟩

theorem Declaration.spaceAfter_step (current : String) (declaration : Declaration) :
    declaration.step.spaceAfter current = current := by
  cases declaration <;> rfl

/-- The steps that make declarations one after another, each in its namespace. -/
def SchemaStep.making : List (String × Declaration) → List SchemaStep
  | [] => []
  | (space, declaration) :: rest => .inNamespace space :: declaration.step :: making rest

theorem SchemaStep.additions_making_iff {declarations : List (String × Declaration)}
    {current : String} : additions current (making declarations) = declarations ↔
      ∀ declared ∈ declarations, ∀ q ∈ declared.2.references, q.IsReadable := by
  induction declarations generalizing current with
  | nil => simp [making, additions]
  | cons next rest ih =>
    obtain ⟨space, declaration⟩ := next
    obtain ⟨made, declared⟩ := declaration.exists_declared?_step space
    have here : made = declaration ↔ ∀ q ∈ declaration.references, q.IsReadable := by
      rw [← Declaration.declared?_step_iff space, declared, Option.some_inj]
    -- The first of the two steps only moves to the namespace of the declaration.
    have unfolded : additions current (making ((space, declaration) :: rest)) =
        (space, made) :: additions space (making rest) := by
      calc additions current (making ((space, declaration) :: rest))
        _ = additions space (declaration.step :: making rest) := rfl
        _ = (space, made) :: additions space (making rest) := by
          rw [additions, declared, Declaration.spaceAfter_step]
          rfl
    rw [unfolded, List.cons.injEq, Prod.mk.injEq, and_iff_right rfl, here, ih, List.forall_mem_cons]

end Schemas

/-- A text is read as a name exactly if the name has this text and can be told from it. It is not
read exactly if it has no dot or its last dot stands at an end. So the text of a name means the name
in every namespace exactly if the name can be told from it, and a schema whose references are all
written as texts declares what it was made from exactly if this holds of all their names. -/
theorem QualifiedName.told_from_text :
    (∀ (text : String) (q : QualifiedName),
      ofText? text = some q ↔ q.text = text ∧ q.IsReadable) ∧
    (∀ text : String, ofText? text = none ↔ '.' ∉ text.toList ∨
      ∃ position, IsLastAt '.' text.toList position ∧
        (position = 0 ∨ position + 1 = text.length)) ∧
    (∀ q : QualifiedName, ofText? q.text = some q ↔ q.IsReadable) ∧
    (∀ (q : QualifiedName) (current : String),
      (TypeReference.written q.text).resolve current = q ↔ q.IsReadable) ∧
    ∀ (first : String) (declarations : List (String × Declaration)),
      (SchemaDraft.afterSteps first (SchemaStep.making declarations)).declarations = declarations ↔
        ∀ declared ∈ declarations, ∀ q ∈ declared.2.references, q.IsReadable := by
  refine ⟨fun text q => ofText?_eq_some_iff, fun text => ofText?_eq_none_iff,
    fun q => ofText?_text_iff, fun q current => resolve_reference_iff current,
    fun first declarations => ?_⟩
  rw [SchemaDraft.declarations_afterSteps, SchemaStep.additions_making_iff]

/-- A schema with a type whose base stands in a namespace with dots. -/
def labelSchema : List (String × Declaration) :=
  [("Shop", .complex { name := "Label", baseType := some ⟨"Org.OData.Core", "Tag"⟩ })]

theorem QualifiedName.told_from_text_tag :
    IsReadable ⟨"Org.OData.Core", "Tag"⟩ ∧
    ofText? "Org.OData.Core.Tag" = some ⟨"Org.OData.Core", "Tag"⟩ ∧ ofText? "Core." = none ∧
    (TypeReference.written "Org.OData.Core.Tag").resolve "Shop" = ⟨"Org.OData.Core", "Tag"⟩ ∧
    (SchemaDraft.afterSteps "Home" (SchemaStep.making labelSchema)).declarations =
      labelSchema := by
  obtain ⟨reading, unread, -, meaning, schemas⟩ := told_from_text
  have readable : IsReadable ⟨"Org.OData.Core", "Tag"⟩ := by decide
  have last : IsLastAt '.' "Core.".toList 4 := ⟨by decide, by decide⟩
  refine ⟨readable, (reading _ _).2 ⟨by decide, readable⟩,
    (unread "Core.").2 (.inr ⟨4, last, .inr (by decide)⟩), (meaning _ "Shop").2 readable,
    (schemas "Home" labelSchema).2 ?_⟩
  simpa [labelSchema, Declaration.references] using readable

end EntityModel
