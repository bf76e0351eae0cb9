import EntityModel.Proofs.Lookup
import EntityModel.Proofs.Registry.Caches
import Mathlib.Data.List.Forall2

/-!
Catalogs hold each name once over all categories. An addition is refused exactly if its name is
taken, and else puts one declaration under this name and nothing else. So after any additions, one
after another, the names of a catalog are those of the accepted ones.
-/

set_option autoImplicit false

namespace EntityModel.Catalog

variable {catalog : Catalog} {category : Category} {declaration : Declaration}
  {name : QualifiedName}

/-- The name under which a declaration is added in a namespace. -/
def nameOf (addition : String × Declaration) : QualifiedName := ⟨addition.1, addition.2.name⟩

theorem nodup_names (catalog : Catalog) : catalog.names.Nodup := catalog.distinct

theorem length_names (catalog : Catalog) : catalog.names.length = catalog.size := by
  simp only [names, size, List.length_append, List.length_map, Nat.add_assoc]

section Looking

/-- The names that are taken in a category. -/
def namesIn (catalog : Catalog) : Category → List QualifiedName
  | .enumeration => catalog.enumerations.map Prod.fst
  | .complex => catalog.complexTypes.map Prod.fst
  | .entity => catalog.entityTypes.map Prod.fst

theorem mem_namesIn_iff :
    name ∈ catalog.namesIn category ↔ catalog.provider.declaration? category name ≠ none := by
  cases category <;> rw [namesIn, mem_keys_iff, Provider.declaration?, Ne, Ne,
    Option.map_eq_none_iff] <;> rfl

theorem not_declared_of_free (free : name ∉ catalog.names) (category : Category) :
    catalog.provider.declaration? category name = none := by
  refine Classical.byContradiction fun declared => free ?_
  have mem := mem_namesIn_iff.2 declared
  cases category with
  | enumeration => exact List.mem_append_left _ mem
  | complex => exact List.mem_append_right _ (List.mem_append_left _ mem)
  | entity => exact List.mem_append_right _ (List.mem_append_right _ mem)

/-- No name is taken in two categories. -/
theorem category_unique {first second : Category}
    (one : catalog.provider.declaration? first name ≠ none)
    (other : catalog.provider.declaration? second name ≠ none) : first = second := by
  obtain ⟨-, later, enumerations⟩ := List.nodup_append.1 catalog.distinct
  obtain ⟨-, -, complexTypes⟩ := List.nodup_append.1 later
  have mem := mem_namesIn_iff.2 one
  have mem' := mem_namesIn_iff.2 other
  cases first <;> cases second
  case enumeration.enumeration | complex.complex | entity.entity => rfl
  case enumeration.complex => exact absurd rfl (enumerations _ mem _ (List.mem_append_left _ mem'))
  case enumeration.entity => exact absurd rfl (enumerations _ mem _ (List.mem_append_right _ mem'))
  case complex.enumeration => exact absurd rfl (enumerations _ mem' _ (List.mem_append_left _ mem))
  case entity.enumeration => exact absurd rfl (enumerations _ mem' _ (List.mem_append_right _ mem))
  case complex.entity => exact absurd rfl (complexTypes _ mem _ mem')
  case entity.complex => exact absurd rfl (complexTypes _ mem' _ mem)

theorem not_repeats (catalog : Catalog) (name : QualifiedName) :
    ¬ catalog.provider.Repeats name := by
  rintro ⟨first, second, apart, one, other⟩
  exact apart (category_unique one other)

theorem declaresOnly (declared : catalog.provider.declaration? category name = some declaration) :
    catalog.provider.DeclaresOnly name category declaration :=
  ⟨declared, fun _ present => category_unique present (by simp [declared])⟩

end Looking

section Adding

variable (free : name ∉ catalog.names) (declaration)

theorem names_insert :
    (catalog.insert name free declaration).names.Perm (name :: catalog.names) := by
  cases declaration with
  | enumeration => exact .refl _
  | complex => exact List.perm_middle
  | entity => exact (List.perm_middle.append_left _).trans List.perm_middle

theorem size_insert : (catalog.insert name free declaration).size = catalog.size + 1 := by
  rw [← length_names, (names_insert declaration free).length_eq, List.length_cons, length_names]

theorem names_insert_append (more : List QualifiedName) :
    ((catalog.insert name free declaration).names ++ more).Perm (catalog.names ++ name :: more) :=
  ((names_insert declaration free).append_right more).trans List.perm_middle.symm

/-- Only what is found under the new name in the category of its declaration changes. -/
theorem declaration?_insert (category : Category) (other : QualifiedName) :
    (catalog.insert name free declaration).provider.declaration? category other =
      if category = declaration.category ∧ other = name then some declaration
      else catalog.provider.declaration? category other := by
  by_cases same : other = name
  · subst same
    cases declaration <;> cases category <;>
      simp [insert, provider, enumeration?, complex?, entity?, Provider.declaration?,
        Declaration.category]
  · have apart : (other == name) = false := beq_false_of_ne same
    cases declaration <;> cases category <;>
      simp [insert, provider, enumeration?, complex?, entity?, Provider.declaration?,
        List.lookup_cons, same, apart]

/-- How an addition may go. -/
inductive Addition (catalog : Catalog) (space : String) (declaration : Declaration) :
    Except SchemaError (QualifiedName × Catalog) → Prop where
  | refused : nameOf (space, declaration) ∈ catalog.names →
      Addition catalog space declaration (.error (.declaredTwice (nameOf (space, declaration))))
  | accepted (free : nameOf (space, declaration) ∉ catalog.names) :
      Addition catalog space declaration
        (.ok (nameOf (space, declaration), catalog.insert _ free declaration))

theorem addition (catalog : Catalog) (space : String) (declaration : Declaration) :
    Addition catalog space declaration (catalog.add space declaration) := by
  unfold add
  dsimp only
  split
  · next taken => exact .refused taken
  · next free => exact .accepted free

end Adding

section Sequences

/-- Adds declarations one after another, with the answer to each. What is refused changes nothing.
-/
def addEach : List (String × Declaration) → Catalog →
    List (Except SchemaError QualifiedName) × Catalog
  | [], catalog => ([], catalog)
  | (space, declaration) :: rest, catalog =>
    match catalog.add space declaration with
    | .ok (name, extended) =>
      let (answers, last) := addEach rest extended
      (.ok name :: answers, last)
    | .error reason =>
      let (answers, last) := addEach rest catalog
      (.error reason :: answers, last)

/-- The names under which declarations were accepted. -/
def accepted (answers : List (Except SchemaError QualifiedName)) : List QualifiedName :=
  answers.filterMap Except.toOption

variable (additions : List (String × Declaration)) (catalog)

/-- Every answer is about the name of its own addition. -/
theorem addEach_answers : List.Forall₂
    (fun addition answer => answer = .ok (nameOf addition) ∨
      answer = .error (.declaredTwice (nameOf addition)))
    additions (addEach additions catalog).1 := by
  induction additions generalizing catalog with
  | nil => exact .nil
  | cons next rest ih =>
    obtain ⟨space, declaration⟩ := next
    have way := addition catalog space declaration
    rw [addEach]
    generalize catalog.add space declaration = answer at way ⊢
    cases way with
    | refused => exact .cons (.inr rfl) (ih catalog)
    | accepted => exact .cons (.inl rfl) (ih _)

theorem names_addEach : (addEach additions catalog).2.names.Perm
    (catalog.names ++ accepted (addEach additions catalog).1) := by
  induction additions generalizing catalog with
  | nil => exact .of_eq (List.append_nil _).symm
  | cons next rest ih =>
    obtain ⟨space, declaration⟩ := next
    have way := addition catalog space declaration
    rw [addEach]
    generalize catalog.add space declaration = answer at way ⊢
    cases way with
    | refused => exact ih catalog
    | accepted free => exact (ih _).trans (names_insert_append declaration free _)

theorem addEach_append (more : List (String × Declaration)) :
    (addEach (additions ++ more) catalog).2 = (addEach more (addEach additions catalog).2).2 := by
  induction additions generalizing catalog with
  | nil => rfl
  | cons next rest ih =>
    obtain ⟨space, declaration⟩ := next
    rw [List.cons_append, addEach, addEach]
    cases catalog.add space declaration with
    | ok answer => exact ih answer.2
    | error reason => exact ih catalog

/-- What a catalog has stays in it. -/
theorem declaration?_addEach
    (declared : catalog.provider.declaration? category name = some declaration) :
    (addEach additions catalog).2.provider.declaration? category name = some declaration := by
  induction additions generalizing catalog with
  | nil => exact declared
  | cons next rest ih =>
    obtain ⟨space, added⟩ := next
    have way := addition catalog space added
    rw [addEach]
    generalize catalog.add space added = answer at way ⊢
    cases way with
    | refused => exact ih catalog declared
    | accepted free =>
      refine ih _ ?_
      rw [declaration?_insert, if_neg, declared]
      rintro ⟨rfl, rfl⟩
      rw [not_declared_of_free free] at declared
      cases declared

end Sequences

end EntityModel.Catalog
