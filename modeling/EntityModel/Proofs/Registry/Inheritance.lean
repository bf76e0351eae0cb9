import EntityModel.Proofs.Registry.Publication
import EntityModel.Proofs.Registry.Walk

/-!
What a type inherits. A name means what the type itself declares under it, or else what the nearest
of its base types declares under it, and a key is found in the same way. The listings hold every
name that is declared on the way, once, in the order of first declarations from the root on.
-/

set_option autoImplicit false

namespace EntityModel

section Order

variable {texts : List String} {first second : String}

/-- Leaving out other texts keeps the order in which two texts first occur. -/
theorem idxOf_filter_lt_iff {keep : String → Bool} (keepFirst : keep first = true)
    (keepSecond : keep second = true) :
    (texts.filter keep).idxOf first < (texts.filter keep).idxOf second ↔
      texts.idxOf first < texts.idxOf second := by
  induction texts with
  | nil => rfl
  | cons text rest ih =>
    by_cases kept : keep text = true
    · rw [List.filter_cons_of_pos kept, List.idxOf_cons, List.idxOf_cons, List.idxOf_cons,
        List.idxOf_cons]
      cases text == first <;> cases text == second <;> simp [ih]
    · have other {sought : String} (keeps : keep sought = true) : (text == sought) = false :=
        beq_false_of_ne fun same => kept (same ▸ keeps)
      rw [List.filter_cons_of_neg kept, List.idxOf_cons, List.idxOf_cons, other keepFirst,
        other keepSecond]
      simpa using ih

theorem idxOf_firstOccurrences_lt_iff :
    (firstOccurrences texts).idxOf first < (firstOccurrences texts).idxOf second ↔
      texts.idxOf first < texts.idxOf second := by
  induction texts with
  | nil => rfl
  | cons text rest ih =>
    rw [firstOccurrences, List.idxOf_cons, List.idxOf_cons, List.idxOf_cons, List.idxOf_cons]
    -- A text that differs from the first one is not left out of what follows it.
    by_cases same : text = first
    · subst same
      by_cases same' : text = second
      · simp [same']
      · simp [beq_false_of_ne same']
    · by_cases same' : text = second
      · simp [same']
      · rw [beq_false_of_ne same, beq_false_of_ne same']
        simpa [idxOf_filter_lt_iff, Ne.symm same, Ne.symm same'] using ih

/-- A list holds the texts of another one, each once, in the order in which they first occur. -/
structure ListsOnce (declared listed : List String) : Prop where
  nodup : listed.Nodup
  mem_iff : ∀ text, text ∈ listed ↔ text ∈ declared
  order : ∀ first second, listed.idxOf first < listed.idxOf second ↔
    declared.idxOf first < declared.idxOf second

theorem listsOnce_firstOccurrences (texts : List String) :
    ListsOnce texts (firstOccurrences texts) :=
  ⟨nodup_firstOccurrences texts, fun text => mem_firstOccurrences text texts,
    fun _ _ => idxOf_firstOccurrences_lt_iff⟩

end Order

namespace StructuredType

variable {type : StructuredType} {name : String} {bases : List StructuredType}

/-- A type itself declares an element under a name. -/
def Declares (type : StructuredType) (name : String) (element : Element) : Prop :=
  element ∈ type.elements ∧ element.name = name

theorem own?_eq_none_iff : type.own? name = none ↔ ∀ element, ¬ type.Declares name element := by
  rw [Option.eq_none_iff_forall_ne_some]
  exact forall_congr' fun element => not_congr own?_eq_some_iff

theorem own?_ne_none_iff : type.own? name ≠ none ↔ ∃ element, type.Declares name element := by
  rw [Ne, own?_eq_none_iff, not_forall_not]

/-- What a list of base types declares under a name is what the first one does that declares it. -/
theorem findSome?_own?_of_isFirst {nearest : StructuredType} {element : Element}
    (first : IsFirst (fun base => ∃ element, base.Declares name element) bases nearest)
    (declares : nearest.Declares name element) :
    bases.findSome? (·.own? name) = some element := by
  simp only [← own?_ne_none_iff] at first
  exact findSome?_eq_some_iff_isFirst.2 ⟨nearest, first, own?_eq_some_iff.2 declares⟩

theorem keyAlong_of_isFirst {nearest : StructuredType} (keyless : type.key = [])
    (first : IsFirst (fun base => base.key ≠ []) bases nearest) :
    type.keyAlong bases = nearest.key := by
  have found : bases.find? (fun base => base.key ≠ []) = some nearest :=
    find?_eq_some_iff_isFirst.2 (by simpa using first)
  rw [keyAlong, List.find?_cons_of_neg (by simp [keyless]), found, Option.elim_some]

theorem keyAlong_of_forall (keyless : ∀ other ∈ type :: bases, other.key = []) :
    type.keyAlong bases = [] := by
  have absent : (type :: bases).find? (fun base => base.key ≠ []) = none :=
    List.find?_eq_none.2 (by simpa using keyless)
  rw [keyAlong, absent, Option.elim_none]

theorem own?_isSome_iff :
    (type.own? name).isSome ↔ name ∈ type.ownProperties ∨ name ∈ type.ownNavigations := by
  rw [mem_ownProperties, mem_ownNavigations]
  cases own : type.own? name with
  | none => simp
  | some element => cases element <;> simp [Element.property?, Element.navigation?]

theorem meaning?_isSome_iff :
    (type.meaning? name bases).isSome ↔
      name ∈ type.listNames ownProperties bases ∨ name ∈ type.listNames ownNavigations bases := by
  rw [meaning?, List.findSome?_isSome_iff, mem_listNames, mem_listNames]
  simp only [own?_isSome_iff, and_or_left, exists_or]

theorem ofDeclaration_parts {full : QualifiedName} {category : StructuredCategory}
    {declaration : StructuredDeclaration}
    (built : ofDeclaration full category declaration = .ok type) :
    type.ownProperties = declaration.properties.map Property.name ∧
      type.ownNavigations = declaration.navigations.map NavigationProperty.name ∧
      (category = .complex → type.key = []) := by
  unfold ofDeclaration at built
  dsimp only at built
  split at built
  · cases built
  · cases built
    refine ⟨?_, ?_, ?_⟩
    · simp [ownProperties, List.filterMap_append, Function.comp_def, Element.property?]
    · simp [ownNavigations, List.filterMap_append, Function.comp_def, Element.navigation?]
    · rintro rfl
      rfl

end StructuredType

namespace Provider

variable {provider : Provider} {type base : StructuredType} {bases : List StructuredType}

/-- What a provider declares under a name as a structured type. -/
def structured? (provider : Provider) : StructuredCategory → QualifiedName →
    Option StructuredDeclaration
  | .complex => provider.complex?
  | .entity => provider.entity?

/-- A structured type is what the declaration of its name describes. -/
theorem Offers.described (offered : provider.Offers type) :
    ∃ declaration, provider.structured? type.category type.name = some declaration ∧
      StructuredType.ofDeclaration type.name type.category declaration = .ok type := by
  unfold Offers resolve at offered
  split at offered
  · cases primitive : PrimitiveKind.ofQualifiedName? type.name <;> rw [primitive] at offered <;>
      cases offered
  obtain ⟨category, declaration, ⟨declared, -⟩, built⟩ := declared?_eq_some offered
  cases declaration with
  | enumeration declaration =>
    obtain ⟨_, _, same⟩ := map_eq_ok_iff.1 built
    cases same
  | complex declaration | entity declaration =>
    obtain ⟨_, described, same⟩ := map_eq_ok_iff.1 built
    cases same
    have own := (StructuredType.ofDeclaration_eq_ok described).2
    obtain rfl := category_of_declaration? declared
    obtain ⟨_, found, same⟩ := Option.map_eq_some_iff.1 declared
    cases same
    rw [own]
    exact ⟨declaration, found, described⟩

theorem Ascends.category_of_mem {category : StructuredCategory} {next : Option QualifiedName}
    (ascent : provider.Ascends category next bases) (mem : base ∈ bases) :
    base.category = category := by
  induction ascent with
  | root => cases mem
  | above resolved _ ih =>
    rcases List.mem_cons.1 mem with rfl | mem
    · exact (resolveStructured_eq_some resolved).2.1
    · exact ih mem

/-- Only entity types have a key. -/
theorem Offers.key_of_complex (offered : provider.Offers type) (complex : type.category = .complex) :
    type.key = [] := by
  obtain ⟨declaration, -, built⟩ := offered.described
  exact (StructuredType.ofDeclaration_parts built).2.2 complex

theorem element_of_declares {name : String} {element : Element}
    (declares : type.Declares name element) :
    provider.element type name = .ok (some element) := by
  rw [Provider.element, StructuredType.own?_eq_some_iff.2 declares]

theorem element_of_inherited {name : String}
    (inherited : ∀ element, ¬ type.Declares name element) :
    provider.element type name = (provider.bases type).map (·.findSome? (·.own? name)) := by
  rw [Provider.element, StructuredType.own?_eq_none_iff.2 inherited]

end Provider

namespace Registry

variable {provider : Provider} {registry : Registry} {type : StructuredType}

theorem keyNames_of_keyless (sound : Sound provider registry) (offered : provider.Offers type)
    (keyless : type.key = []) :
    (registry.keyNames provider type).1 = (provider.bases type).map type.keyAlong := by
  rw [keyNames, if_neg (not_not_intro keyless), Answer.map_fst, (bases_agrees sound offered).1]

/-- What a type declares itself counts, even if its base types cannot be found. Else the walk along
them has to succeed, and the nearest one counts that declares the name. A key is found in the same
way, and if it is the type's own, nothing is looked up; complex types have none. -/
theorem nearest_declaration (reached : Reached provider registry)
    (offered : provider.Offers type) :
    (∀ name,
      (∀ element, type.Declares name element →
        (registry.element provider type name).1 = .ok (some element)) ∧
      ((∀ element, ¬ type.Declares name element) →
        (∀ reason, provider.bases type = .error reason →
          (registry.element provider type name).1 = .error reason) ∧
        ∀ bases, provider.bases type = .ok bases →
          (∀ nearest element,
            IsFirst (fun base => ∃ element, base.Declares name element) bases nearest →
            nearest.Declares name element →
            (registry.element provider type name).1 = .ok (some element)) ∧
          ((∀ base ∈ bases, ∀ element, ¬ base.Declares name element) →
            (registry.element provider type name).1 = .ok none))) ∧
    (type.key ≠ [] → registry.keyNames provider type = (.ok type.key, registry)) ∧
    (type.key = [] →
      (∀ reason, provider.bases type = .error reason →
        (registry.keyNames provider type).1 = .error reason) ∧
      ∀ bases, provider.bases type = .ok bases →
        (∀ nearest, IsFirst (fun base => base.key ≠ []) bases nearest →
          (registry.keyNames provider type).1 = .ok nearest.key) ∧
        ((∀ base ∈ bases, base.key = []) → (registry.keyNames provider type).1 = .ok [])) ∧
    (type.category = .complex →
      (registry.keyNames provider type).1 = (provider.bases type).map fun _ => []) := by
  refine ⟨fun name => ?_, fun own => if_pos own, fun keyless => ?_, fun complex => ?_⟩
  · rw [(element_agrees reached.sound offered name).1]
    refine ⟨fun element => Provider.element_of_declares, fun inherited => ?_⟩
    rw [Provider.element_of_inherited inherited]
    constructor
    · intro reason
      exact map_eq_error_iff.2
    · intro bases found
      rw [found]
      constructor
      · intro nearest element first declares
        exact congrArg Except.ok (StructuredType.findSome?_own?_of_isFirst first declares)
      · intro absent
        apply congrArg Except.ok
        apply List.findSome?_eq_none_iff.2
        intro base mem
        exact StructuredType.own?_eq_none_iff.2 (absent base mem)
  · rw [keyNames_of_keyless reached.sound offered keyless]
    constructor
    · intro reason
      exact map_eq_error_iff.2
    · intro bases found
      rw [found]
      constructor
      · intro nearest first
        exact congrArg Except.ok (StructuredType.keyAlong_of_isFirst keyless first)
      · intro absent
        apply congrArg Except.ok
        exact StructuredType.keyAlong_of_forall (List.forall_mem_cons.2 ⟨keyless, absent⟩)
  · have keyless := offered.key_of_complex complex
    rw [keyNames_of_keyless reached.sound offered keyless]
    cases found : provider.bases type with
    | error reason => rfl
    | ok bases =>
      apply congrArg Except.ok
      apply StructuredType.keyAlong_of_forall
      rw [List.forall_mem_cons]
      refine ⟨keyless, fun base mem => ?_⟩
      have ascent := ((Provider.bases_eq_ok_iff type bases).1 found).1
      exact (Provider.bases_tail found mem).1.key_of_complex
        ((ascent.category_of_mem mem).trans complex)

/-- What a registry remembers after the sample session. -/
def sampleHistory : Registry := (run sampleProvider sampleSession empty).2

/-- The employee has neither a name nor a key of its own and finds those of the person. -/
theorem nearest_declaration_employee :
    Reached sampleProvider sampleHistory ∧ sampleProvider.Offers sampleEmployee ∧
      (sampleHistory.element sampleProvider sampleEmployee "Id").1 =
        .ok (some (.property { name := "Id", type := .primitive "Int32" })) ∧
      (sampleHistory.keyNames sampleProvider sampleEmployee).1 = .ok ["Id"] := by
  have reached : Reached sampleProvider sampleHistory := ⟨sampleSession, by decide +kernel, rfl⟩
  have offered : sampleProvider.Offers sampleEmployee := rfl
  have found : sampleProvider.bases sampleEmployee = .ok [samplePerson] := by rfl
  obtain ⟨names, -, keys, -⟩ := nearest_declaration reached offered
  have nearest (holds : StructuredType → Prop) (first : holds samplePerson) :
      IsFirst holds [samplePerson] samplePerson :=
    ⟨[], [], rfl, first, by simp⟩
  have declares : samplePerson.Declares "Id"
      (.property { name := "Id", type := .primitive "Int32" }) := by
    constructor <;> decide
  refine ⟨reached, offered, ?_, ?_⟩
  · obtain ⟨-, inherited⟩ := names "Id"
    obtain ⟨-, along⟩ := inherited (by rintro _ ⟨mem, -⟩; cases mem)
    exact (along _ found).1 _ _ (nearest _ ⟨_, declares⟩) declares
  · exact ((keys rfl).2 _ found).1 _ (nearest _ (by decide))

/-- What is declared under the names of some types of one category. -/
theorem exists_declarations {category : StructuredCategory} {line : List StructuredType}
    (offered : ∀ other ∈ line, provider.Offers other ∧ other.category = category) :
    ∃ declarations : List StructuredDeclaration,
      line.map (fun other => provider.structured? category other.name) = declarations.map some ∧
      line.map StructuredType.ownProperties =
        declarations.map (·.properties.map Property.name) ∧
      line.map StructuredType.ownNavigations =
        declarations.map (·.navigations.map NavigationProperty.name) := by
  induction line with
  | nil => exact ⟨[], rfl, rfl, rfl⟩
  | cons first rest ih =>
    rw [List.forall_mem_cons] at offered
    obtain ⟨⟨offered, rfl⟩, others⟩ := offered
    obtain ⟨declaration, declared, built⟩ := offered.described
    obtain ⟨properties, navigations, -⟩ := StructuredType.ofDeclaration_parts built
    obtain ⟨declarations, same, same', same''⟩ := ih others
    exact ⟨declaration :: declarations, congrArg₂ _ declared same, congrArg₂ _ properties same',
      congrArg₂ _ navigations same''⟩

/-- A type whose base types are found lists the names of properties and those of navigation
properties that it and its base types declare, each once and in the order in which they are first
declared from the root on. Exactly these names can be looked up. -/
theorem names_listed_once {later : Registry} (reached : Reached provider registry)
    (reached' : Reached provider later) (offered : provider.Offers type)
    {bases : List StructuredType} (found : provider.bases type = .ok bases) :
    ∃ (declarations : List StructuredDeclaration) (properties navigations : List String),
      (type :: bases).map (fun other => provider.structured? type.category other.name) =
        declarations.map some ∧
      (registry.propertyNames provider type).1 = .ok properties ∧
      (registry.navigationNames provider type).1 = .ok navigations ∧
      ListsOnce (declarations.reverse.flatMap (·.properties.map Property.name)) properties ∧
      ListsOnce (declarations.reverse.flatMap (·.navigations.map NavigationProperty.name))
        navigations ∧
      ∀ name, name ∈ properties ∨ name ∈ navigations ↔
        ∃ element, (later.element provider type name).1 = .ok (some element) := by
  have ascent := ((Provider.bases_eq_ok_iff type bases).1 found).1
  have line : ∀ other ∈ type :: bases, provider.Offers other ∧ other.category = type.category :=
    List.forall_mem_cons.2 ⟨⟨offered, rfl⟩, fun base mem =>
      ⟨(Provider.bases_tail found mem).1, ascent.category_of_mem mem⟩⟩
  obtain ⟨declarations, declared, properties, navigations⟩ := exists_declarations line
  have listed {own : StructuredType → List String} {names : StructuredDeclaration → List String}
      (same : (type :: bases).map own = declarations.map names) :
      ListsOnce (declarations.reverse.flatMap names) (type.listNames own bases) := by
    rw [List.flatMap_def, List.map_reverse, ← same, ← List.map_reverse, ← List.flatMap_def]
    exact listsOnce_firstOccurrences _
  refine ⟨declarations, _, _, declared, listNames_answer reached.sound offered found _,
    listNames_answer reached.sound offered found _, listed properties, listed navigations, ?_⟩
  intro name
  rw [(element_agrees reached'.sound offered name).1, Provider.element_eq_meaning? found,
    ← StructuredType.meaning?_isSome_iff, Option.isSome_iff_exists]
  simp only [Except.ok.injEq]

/-- The masked property and the navigation property that masks it are listed, and the name is
found. -/
theorem names_listed_once_masking :
    ∃ properties navigations : List String,
      (maskingHistory.propertyNames maskingProvider maskingType).1 = .ok properties ∧
      (maskingHistory.navigationNames maskingProvider maskingType).1 = .ok navigations ∧
      "x" ∈ properties ∧ "x" ∈ navigations ∧
      ∃ element, (empty.element maskingProvider maskingType "x").1 = .ok (some element) := by
  have reached : Reached maskingProvider maskingHistory := ⟨_, by decide, rfl⟩
  have reached_empty : Reached maskingProvider empty := ⟨[], trivial, rfl⟩
  obtain ⟨declarations, properties, navigations, declared, listed, listed', -, -, agree⟩ :=
    names_listed_once reached reached_empty maskingProvider_offers maskingProvider_bases
  have present : "x" ∈ properties := by
    cases listed
    decide
  refine ⟨properties, navigations, listed, listed', present, ?_, (agree "x").1 (.inl present)⟩
  cases listed'
  decide

end Registry

end EntityModel
