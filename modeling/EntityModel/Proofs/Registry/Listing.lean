import EntityModel.Proofs.Lookup
import EntityModel.Proofs.Registry.Transparency

/-!
The names that a type lists against the names that mean something in it. A name is listed for every
declaration of it on the way to the root, while only the nearest declaration counts when it is
looked up. So what a name means is always listed, but an inherited property stays listed when a
derived type declares its name again for a navigation property, and the other way round.
-/

set_option autoImplicit false

namespace EntityModel

namespace StructuredType

variable {name : String}

theorem own?_eq_some_iff {type : StructuredType} {element : Element} :
    type.own? name = some element ↔ element ∈ type.elements ∧ element.name = name :=
  find?_key_eq_some_iff type.distinct

/-- The names of the own elements of one sort are those that mean such an element in the type. -/
theorem mem_own_iff {α : Type} {sort : Element → Option α} {key : α → String}
    (keeps : ∀ element a, sort element = some a → key a = element.name) (type : StructuredType) :
    name ∈ (type.elements.filterMap sort).map key ↔ ((type.own? name).bind sort).isSome := by
  simp only [List.mem_map, List.mem_filterMap, Option.isSome_iff_exists, Option.bind_eq_some_iff,
    own?_eq_some_iff]
  constructor
  · rintro ⟨a, ⟨element, mem, sorted⟩, rfl⟩
    exact ⟨a, element, ⟨mem, (keeps element a sorted).symm⟩, sorted⟩
  · rintro ⟨a, element, ⟨mem, rfl⟩, sorted⟩
    exact ⟨a, ⟨element, mem, sorted⟩, keeps element a sorted⟩

theorem mem_ownProperties (type : StructuredType) :
    name ∈ type.ownProperties ↔ ((type.own? name).bind Element.property?).isSome := by
  refine mem_own_iff ?_ type
  rintro (_ | _) _ sorted <;> cases sorted
  rfl

theorem mem_ownNavigations (type : StructuredType) :
    name ∈ type.ownNavigations ↔ ((type.own? name).bind Element.navigation?).isSome := by
  refine mem_own_iff ?_ type
  rintro (_ | _) _ sorted <;> cases sorted
  rfl

theorem mem_listNames (own : StructuredType → List String) (type : StructuredType)
    (bases : List StructuredType) :
    name ∈ type.listNames own bases ↔ ∃ other ∈ type :: bases, name ∈ own other := by
  simp only [listNames, mem_firstOccurrences, List.mem_flatMap, List.mem_reverse]

/-- What a name means in a type with its base types: the nearest declaration counts. -/
def meaning? (name : String) (type : StructuredType) (bases : List StructuredType) :
    Option Element :=
  (type :: bases).findSome? (·.own? name)

/-- Names are listed by their declarations and looked up by their nearest one: where they mean an
element they are listed with its sort, and the listings differ from the look-up in the names that
are declared in both sorts. -/
theorem listed_iff (name : String) (type : StructuredType) (bases : List StructuredType) :
    let properties := type.listNames ownProperties bases
    let navigations := type.listNames ownNavigations bases
    let property := (type.meaning? name bases).bind Element.property?
    let navigation := (type.meaning? name bases).bind Element.navigation?
    (property.isSome → name ∈ properties) ∧ (navigation.isSome → name ∈ navigations) ∧
    ((name ∈ properties ↔ property.isSome) ∧ (name ∈ navigations ↔ navigation.isSome) ↔
      ¬ (name ∈ properties ∧ name ∈ navigations)) := by
  intro properties navigations property navigation
  have listed : name ∈ properties ↔
      ∃ other ∈ type :: bases, ((other.own? name).bind Element.property?).isSome := by
    simp only [properties, mem_listNames, mem_ownProperties]
  have listed' : name ∈ navigations ↔
      ∃ other ∈ type :: bases, ((other.own? name).bind Element.navigation?).isSome := by
    simp only [navigations, mem_listNames, mem_ownNavigations]
  -- Without a declaration nothing is listed; else the nearest one is listed and decides what is
  -- found, and only a farther one can be listed in the other sort.
  cases means : type.meaning? name bases with
  | none =>
    have absent : name ∉ properties ∧ name ∉ navigations := by
      rw [listed, listed']
      constructor <;> rintro ⟨other, mem, declared⟩ <;>
        simp [List.findSome?_eq_none_iff.1 means other mem] at declared
    simp [property, navigation, means, absent]
  | some element =>
    obtain ⟨nearest, mem, declared⟩ := List.exists_of_findSome?_eq_some means
    cases element with
    | property found =>
      have present : name ∈ properties :=
        listed.2 ⟨nearest, mem, by simp [declared, Element.property?]⟩
      simp [property, navigation, means, present, Element.property?, Element.navigation?]
    | navigation found =>
      have present : name ∈ navigations :=
        listed'.2 ⟨nearest, mem, by simp [declared, Element.navigation?]⟩
      simp [property, navigation, means, present, Element.property?, Element.navigation?]

end StructuredType

theorem Provider.element_eq_meaning? {provider : Provider} {type : StructuredType}
    {bases : List StructuredType} (found : provider.bases type = .ok bases) (name : String) :
    provider.element type name = .ok (type.meaning? name bases) := by
  rw [element, StructuredType.meaning?, List.findSome?_cons, found]
  cases type.own? name <;> rfl

namespace Registry

variable {provider : Provider} {registry : Registry}

/-- A type whose base types can be found lists its names, and every name can be looked up. A name
that means an element is listed with its sort; listings and look-ups agree on a name unless it is
listed for properties and for navigation properties. -/
theorem listings_agree_iff (sound : Sound provider registry) {type : StructuredType}
    (offered : provider.Offers type) {bases : List StructuredType}
    (found : provider.bases type = .ok bases) :
    ∃ properties navigations : List String,
      (registry.propertyNames provider type).1 = .ok properties ∧
      (registry.navigationNames provider type).1 = .ok navigations ∧
      properties.Nodup ∧ navigations.Nodup ∧
      ∀ name, ∃ (property : Option Property) (navigation : Option NavigationProperty),
        (registry.property provider type name).1 = .ok property ∧
        (registry.navigation provider type name).1 = .ok navigation ∧
        (property.isSome → name ∈ properties) ∧ (navigation.isSome → name ∈ navigations) ∧
        ((name ∈ properties ↔ property.isSome) ∧ (name ∈ navigations ↔ navigation.isSome) ↔
          ¬ (name ∈ properties ∧ name ∈ navigations)) := by
  have listed (own : StructuredType → List String) :
      ((registry.bases provider type).map (type.listNames own)).1 =
        .ok (type.listNames own bases) :=
    ((bases_agrees sound offered).map _).1.trans (by rw [found]; rfl)
  have sought {α : Type} (name : String) (sort : Element → Option α) :
      ((registry.element provider type name).map (·.bind sort)).1 =
        .ok ((type.meaning? name bases).bind sort) :=
    ((element_agrees sound offered name).map _).1.trans
      (by rw [Provider.element_eq_meaning? found]; rfl)
  exact ⟨_, _, listed _, listed _, nodup_firstOccurrences _, nodup_firstOccurrences _,
    fun name => ⟨_, _, sought name _, sought name _, type.listed_iff name bases⟩⟩

/-- A complex type with a property, and one derived from it that declares the name of this property
for a navigation property. -/
def maskingProvider : Provider where
  enumeration? _ := none
  complex? name :=
    if name = ⟨"n", "B"⟩ then
      some { name := "B", properties := [{ name := "x", type := .primitive "Int32" }] }
    else if name = ⟨"n", "D"⟩ then
      some {
        name := "D", baseType := some ⟨"n", "B"⟩
        navigations := [{ name := "x", target := ⟨"n", "T"⟩ }] }
    else none
  entity? _ := none

def maskedType : StructuredType where
  name := ⟨"n", "B"⟩
  category := .complex
  baseType := none
  isAbstract := false
  isOpen := false
  hasStream := false
  key := []
  elements := [.property { name := "x", type := .primitive "Int32" }]
  distinct := by decide

def maskingType : StructuredType :=
  { maskedType with
    name := ⟨"n", "D"⟩, baseType := some maskedType.name
    elements := [.navigation { name := "x", target := ⟨"n", "T"⟩ }]
    distinct := by decide }

theorem maskingProvider_offers : maskingProvider.Offers maskingType := by
  rfl

theorem maskingProvider_bases : maskingProvider.bases maskingType = .ok [maskedType] := by
  rfl

/-- The name that is declared again is listed in both sorts, so listings and look-ups differ. -/
theorem listings_agree_iff_masking :
    Sound maskingProvider empty ∧ maskingProvider.Offers maskingType ∧
      maskingProvider.bases maskingType = .ok [maskedType] ∧
      ∃ properties navigations : List String,
        (empty.propertyNames maskingProvider maskingType).1 = .ok properties ∧
        (empty.navigationNames maskingProvider maskingType).1 = .ok navigations ∧
        "x" ∈ properties ∧ "x" ∈ navigations := by
  refine ⟨sound_empty, maskingProvider_offers, maskingProvider_bases, ?_⟩
  obtain ⟨properties, navigations, listed, listed', -⟩ :=
    listings_agree_iff sound_empty maskingProvider_offers maskingProvider_bases
  refine ⟨properties, navigations, listed, listed', ?_, ?_⟩
  · cases listed
    decide
  · cases listed'
    decide

/-- A property that is masked by a navigation property is listed, and looking it up finds none. -/
theorem masked_property_listed : ¬ ∀ (provider : Provider) (type : StructuredType)
    (bases : List StructuredType), provider.Offers type → provider.bases type = .ok bases →
    ∀ (name : String) (properties : List String),
      (empty.propertyNames provider type).1 = .ok properties →
      (name ∈ properties ↔ ∃ property,
        (empty.property provider type name).1 = .ok (some property)) := by
  intro agree
  have same := agree maskingProvider maskingType _ maskingProvider_offers maskingProvider_bases "x"
    ["x"] rfl
  obtain ⟨property, found⟩ := same.1 (by decide)
  cases found

end Registry

end EntityModel
