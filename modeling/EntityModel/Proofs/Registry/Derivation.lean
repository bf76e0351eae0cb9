import EntityModel.Proofs.Registry.History
import EntityModel.Proofs.Registry.Listing

/-!
Derivation as an order. The line of a type, the type itself and its base types, ends with the line
of each of its base types. So derivation is a partial order, and what a type lists begins with what
its base types list.
-/

set_option autoImplicit false

namespace EntityModel

/-- More texts only add first occurrences at the end. -/
theorem firstOccurrences_append_prefix (texts more : List String) :
    firstOccurrences texts <+: firstOccurrences (texts ++ more) := by
  induction texts with
  | nil => exact List.nil_prefix
  | cons text rest ih => exact (List.prefix_cons_inj text).2 (ih.filter _)

namespace StructuredType

variable {type base : StructuredType} {bases above : List StructuredType}

theorem listNames_prefix (own : StructuredType → List String)
    (tail : base :: above <:+ type :: bases) :
    base.listNames own above <+: type.listNames own bases := by
  obtain ⟨below, line⟩ := tail
  rw [listNames, listNames, ← line, List.reverse_append, List.flatMap_append]
  exact firstOccurrences_append_prefix _ _

theorem meaning?_isSome_of_tail {name : String} (tail : base :: above <:+ type :: bases)
    (means : (base.meaning? name above).isSome) : (type.meaning? name bases).isSome := by
  obtain ⟨below, line⟩ := tail
  rw [meaning?, ← line, List.findSome?_append, Option.isSome_or]
  exact Bool.or_eq_true_iff.2 (.inr means)

end StructuredType

namespace Provider

variable {provider : Provider} {type base root : StructuredType} {bases : List StructuredType}

/-- A type is another one, or it has the other one among its base types. -/
def Derives (provider : Provider) (type base : StructuredType) : Prop :=
  type = base ∨ ∃ bases, provider.bases type = .ok bases ∧ base ∈ bases

/-- The line of a base type is the end of the way up to the root. -/
theorem bases_tail (found : provider.bases type = .ok bases) (mem : base ∈ bases) :
    provider.Offers base ∧
      ∃ above, provider.bases base = .ok above ∧ base :: above <:+ bases := by
  induction bases generalizing type with
  | nil => cases mem
  | cons next rest ih =>
    obtain ⟨offered, -, found_rest⟩ := bases_of_cons found
    rcases List.mem_cons.1 mem with rfl | mem
    · exact ⟨offered, rest, found_rest, List.suffix_rfl⟩
    · obtain ⟨offered, above, found_above, tail⟩ := ih found_rest mem
      exact ⟨offered, above, found_above, tail.trans (List.suffix_cons next rest)⟩

/-- The line of a type ends with the line of each type from which it is derived. -/
theorem Derives.tail (derives : provider.Derives type base)
    (found : provider.bases type = .ok bases) :
    ∃ above, provider.bases base = .ok above ∧ base :: above <:+ type :: bases := by
  rcases derives with rfl | ⟨bases', again, mem⟩
  · exact ⟨bases, found, List.suffix_rfl⟩
  · rw [found] at again
    cases again
    obtain ⟨-, above, found_above, tail⟩ := bases_tail found mem
    exact ⟨above, found_above, tail.trans (List.suffix_cons type bases)⟩

theorem Derives.refl (provider : Provider) (type : StructuredType) : provider.Derives type type :=
  .inl rfl

theorem Derives.trans (lower : provider.Derives type base) (upper : provider.Derives base root) :
    provider.Derives type root := by
  rcases lower with rfl | ⟨bases, found, mem⟩
  · exact upper
  rcases upper with rfl | ⟨above, found_above, mem_above⟩
  · exact .inr ⟨bases, found, mem⟩
  obtain ⟨-, above', again, tail⟩ := bases_tail found mem
  rw [found_above] at again
  cases again
  exact .inr ⟨bases, found, tail.subset (List.mem_cons_of_mem base mem_above)⟩

theorem Derives.antisymm (lower : provider.Derives type base)
    (upper : provider.Derives base type) : type = base := by
  rcases lower with same | ⟨bases, found, mem⟩
  · exact same
  rcases upper with same | ⟨above, found_above, mem_above⟩
  · exact same.symm
  -- Else each of the two types would have fewer base types than the other one.
  obtain ⟨-, above', again, tail⟩ := bases_tail found mem
  rw [found_above] at again
  cases again
  obtain ⟨-, bases', again, tail'⟩ := bases_tail found_above mem_above
  rw [found] at again
  cases again
  have shorter := tail.length_le
  have shorter' := tail'.length_le
  rw [List.length_cons] at shorter shorter'
  omega

end Provider

namespace Registry

variable {provider : Provider} {registry : Registry} {type base : StructuredType}

/-- A registry as a session leaves it that began with nothing known. -/
def Reached (provider : Provider) (registry : Registry) : Prop :=
  ∃ operations, Permits provider [] empty operations ∧
    (run provider operations empty).2 = registry

theorem Reached.sound (reached : Reached provider registry) : Sound provider registry := by
  obtain ⟨operations, permitted, rfl⟩ := reached
  exact (run_answers sound_empty [] (by simp) operations permitted).2

theorem bases_eq_ok_iff (sound : Sound provider registry) (offered : provider.Offers type)
    {bases : List StructuredType} :
    (registry.bases provider type).1 = .ok bases ↔ provider.bases type = .ok bases := by
  rw [(bases_agrees sound offered).1]

/-- A registry compares names; types of one name that are both declared are one type. -/
theorem isDerivedFrom_iff (sound : Sound provider registry) (offered : provider.Offers type)
    (offered' : provider.Offers base) :
    (registry.isDerivedFrom provider type base.name).1 = .ok true ↔
      provider.Derives type base := by
  unfold isDerivedFrom
  split
  · next same => exact ⟨fun _ => .inl (offered.eq_of_name offered' same), fun _ => rfl⟩
  next apart =>
  rw [((bases_agrees sound offered).map _).1, map_eq_ok_iff]
  constructor
  · rintro ⟨bases, found, named⟩
    obtain ⟨other, mem, same⟩ := List.any_eq_true.1 named
    have declared := (Provider.bases_tail found mem).1
    rw [declared.eq_of_name offered' (beq_iff_eq.1 same)] at mem
    exact .inr ⟨bases, found, mem⟩
  · rintro (rfl | ⟨bases, found, mem⟩)
    · exact absurd rfl apart
    · exact ⟨bases, found, List.any_eq_true.2 ⟨base, mem, beq_self_eq_true base.name⟩⟩

theorem listNames_answer (sound : Sound provider registry) (offered : provider.Offers type)
    {bases : List StructuredType} (found : provider.bases type = .ok bases)
    (own : StructuredType → List String) :
    ((registry.bases provider type).map (type.listNames own)).1 =
      .ok (type.listNames own bases) := by
  rw [((bases_agrees sound offered).map _).1, found]
  rfl

/-- Derivation is a partial order, whatever each answer was preceded by. If the base types of a type
are found, those of every type from which it is derived are found, too; the names that such a type
lists are the first ones that the derived type lists, and a name that means something in the one
means something in the other. -/
theorem derivation_order {first second third : Registry} {root : StructuredType}
    (reached : Reached provider first) (reached' : Reached provider second)
    (reached'' : Reached provider third) (offered : provider.Offers type)
    (offered' : provider.Offers base) (offered'' : provider.Offers root) :
    (first.isDerivedFrom provider type type.name).1 = .ok true ∧
    ((first.isDerivedFrom provider type base.name).1 = .ok true →
      (second.isDerivedFrom provider base root.name).1 = .ok true →
      (third.isDerivedFrom provider type root.name).1 = .ok true) ∧
    ((first.isDerivedFrom provider type base.name).1 = .ok true →
      (second.isDerivedFrom provider base type.name).1 = .ok true → type.name = base.name) ∧
    ((first.isDerivedFrom provider type base.name).1 = .ok true →
      ∀ bases, (second.bases provider type).1 = .ok bases →
        (∃ above, (third.bases provider base).1 = .ok above) ∧
        (∃ names inherited, (second.propertyNames provider type).1 = .ok names ∧
          (third.propertyNames provider base).1 = .ok inherited ∧ inherited <+: names) ∧
        (∃ names inherited, (second.navigationNames provider type).1 = .ok names ∧
          (third.navigationNames provider base).1 = .ok inherited ∧ inherited <+: names) ∧
        ∀ name element, (third.element provider base name).1 = .ok (some element) →
          ∃ found, (second.element provider type name).1 = .ok (some found)) := by
  rw [isDerivedFrom_iff reached.sound offered offered',
    isDerivedFrom_iff reached.sound offered offered,
    isDerivedFrom_iff reached'.sound offered' offered'',
    isDerivedFrom_iff reached'.sound offered' offered,
    isDerivedFrom_iff reached''.sound offered offered'']
  refine ⟨.refl provider type, .trans, fun lower upper => congrArg _ (lower.antisymm upper), ?_⟩
  intro derives bases answered
  have found := (bases_eq_ok_iff reached'.sound offered).1 answered
  obtain ⟨above, found_above, tail⟩ := derives.tail found
  have prefixes (own : StructuredType → List String) :
      ∃ names inherited, ((second.bases provider type).map (type.listNames own)).1 = .ok names ∧
        ((third.bases provider base).map (base.listNames own)).1 = .ok inherited ∧
        inherited <+: names :=
    ⟨_, _, listNames_answer reached'.sound offered found own,
      listNames_answer reached''.sound offered' found_above own,
      StructuredType.listNames_prefix own tail⟩
  refine ⟨⟨above, (bases_eq_ok_iff reached''.sound offered').2 found_above⟩, prefixes _,
    prefixes _, ?_⟩
  intro name element means
  rw [(element_agrees reached''.sound offered' name).1,
    Provider.element_eq_meaning? found_above] at means
  rw [(element_agrees reached'.sound offered name).1, Provider.element_eq_meaning? found]
  have declared : (base.meaning? name above).isSome := by
    rw [Except.ok.inj means, Option.isSome_some]
  obtain ⟨nearest, meant⟩ :=
    Option.isSome_iff_exists.1 (StructuredType.meaning?_isSome_of_tail tail declared)
  exact ⟨nearest, congrArg Except.ok meant⟩

/-- What a registry remembers once the derived type was handed out and its names were listed. -/
def maskingHistory : Registry :=
  (run maskingProvider [.complexType maskingType.name, .propertyNames maskingType] empty).2

theorem derivation_order_masking :
    (maskingHistory.isDerivedFrom maskingProvider maskingType maskedType.name).1 = .ok true ∧
      ∃ names inherited,
        (maskingHistory.propertyNames maskingProvider maskingType).1 = .ok names ∧
        (empty.propertyNames maskingProvider maskedType).1 = .ok inherited ∧
        inherited = ["x"] ∧ inherited <+: names := by
  have reached : Reached maskingProvider maskingHistory := ⟨_, by decide, rfl⟩
  have reached_empty : Reached maskingProvider empty := ⟨[], trivial, rfl⟩
  have offered : maskingProvider.Offers maskedType := rfl
  have derived : (maskingHistory.isDerivedFrom maskingProvider maskingType maskedType.name).1 =
      .ok true := by rfl
  obtain ⟨-, -, -, monotone⟩ := derivation_order reached reached reached_empty
    maskingProvider_offers offered offered
  obtain ⟨-, ⟨names, inherited, listed, listed', begins⟩, -⟩ :=
    monotone derived [maskedType] (by rfl)
  refine ⟨derived, names, inherited, listed, listed', ?_, begins⟩
  cases listed'
  decide

end Registry

end EntityModel
