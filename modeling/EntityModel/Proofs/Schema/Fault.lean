import EntityModel.Proofs.Enumeration.Elaboration
import EntityModel.Proofs.Registry.Caches

/-!
What may be wrong with a declaration by itself. If no type can be built from it, the error names the
declaration, and the underlying type, the member or the element that is at fault is one of its own.
-/

set_option autoImplicit false

namespace EntityModel

namespace Declaration

/-- The names of the members that an enumeration declares. -/
def memberNames : Declaration → List String
  | enumeration declaration => declaration.members.map MemberDeclaration.name
  | complex _ | entity _ => []

/-- The names of the elements that a structured type declares, properties first. -/
def elementNames : Declaration → List String
  | enumeration _ => []
  | complex declaration | entity declaration =>
    declaration.properties.map Property.name ++ declaration.navigations.map NavigationProperty.name

/-- An error says what is wrong with a declaration that has the given name. -/
inductive Faults (name : QualifiedName) (declaration : Declaration) : SchemaError → Prop where
  | unusableUnderlying {own : EnumerationDeclaration} {underlying : QualifiedName} :
      declaration = .enumeration own → own.underlying = some underlying →
      Faults name declaration (.unusableUnderlying name underlying)
  | memberOutOfRange {member : String} {value : Int64} : member ∈ declaration.memberNames →
      Faults name declaration (.memberOutOfRange name member value)
  | repeatedMember {member : String} : 2 ≤ declaration.memberNames.count member →
      Faults name declaration (.repeatedMember name member)
  | repeatedElement {element : String} : 2 ≤ declaration.elementNames.count element →
      Faults name declaration (.repeatedElement name element)

end Declaration

variable {name : QualifiedName} {reason : SchemaError}

theorem count_of_firstRepeated? {taken texts : List String} {text : String}
    (found : firstRepeated? taken texts = some text) : 2 ≤ (taken ++ texts).count text := by
  induction texts generalizing taken with
  | nil => cases found
  | cons first rest ih =>
    rw [firstRepeated?] at found
    split at found
    · next repeated =>
      cases found
      have earlier := List.count_pos_iff.2 repeated
      rw [List.count_append, List.count_cons_self]
      omega
    · have counted := ih found
      simp only [List.count_append, List.count_cons] at counted ⊢
      omega

namespace Enumeration

variable {width : IntegerWidth} {members : List Member}

theorem fault?_eq_some (found : fault? name width [] members = some reason) :
    (∃ member ∈ members, reason = .memberOutOfRange name member.name member.value) ∨
      ∃ member, reason = .repeatedMember name member ∧
        2 ≤ (members.map Member.name).count member := by
  obtain ⟨position, member, place, -, fault⟩ := fault?_eq_some_iff.1 found
  rcases fault with ⟨-, rfl⟩ | ⟨-, taken | repeated, rfl⟩
  · exact .inl ⟨member, List.mem_of_getElem? place, rfl⟩
  · cases taken
  · have earlier := List.count_pos_iff.2 repeated
    have split : members = members.take position ++ member :: members.drop (position + 1) := by
      obtain ⟨below, rfl⟩ := List.getElem?_eq_some_iff.1 place
      rw [List.getElem_cons_drop, List.take_append_drop]
    refine .inr ⟨member.name, rfl, ?_⟩
    rw [split, List.map_append, List.map_cons, List.count_append, List.count_cons_self]
    omega

theorem assignValues_eq_error {next : Option Int64} {declared : List MemberDeclaration}
    (failed : assignValues name next declared = .error reason) :
    ∃ member ∈ declared, ∃ value, reason = .memberOutOfRange name member.name value := by
  induction declared generalizing next with
  | nil => cases failed
  | cons first rest ih =>
    rw [assignValues] at failed
    split at failed
    · cases failed
      exact ⟨first, List.mem_cons_self, _, rfl⟩
    split at failed
    · cases failed
    · next found =>
      cases failed
      obtain ⟨member, mem, same⟩ := ih found
      exact ⟨member, List.mem_cons_of_mem _ mem, same⟩

/-- The default underlying type is an integer type; any other one was named. -/
theorem underlying_of_width?_eq_none {underlying : Option QualifiedName} {kind : PrimitiveKind}
    (chosen : underlyingKind name underlying = .ok kind) (unsized : kind.width? = none) :
    underlying = some kind.qualifiedName := by
  cases underlying with
  | none =>
    cases chosen
    cases unsized
  | some underlying =>
    rw [underlyingKind] at chosen
    split at chosen
    · next found =>
      cases chosen
      rw [PrimitiveKind.qualifiedName_of_ofQualifiedName? found]
    · cases chosen

theorem underlyingKind_eq_error {underlying : Option QualifiedName}
    (failed : underlyingKind name underlying = .error reason) :
    ∃ given, underlying = some given ∧ reason = .unusableUnderlying name given := by
  cases underlying with
  | none => cases failed
  | some given =>
    rw [underlyingKind] at failed
    split at failed
    · cases failed
    · cases failed
      exact ⟨given, rfl, rfl⟩

theorem ofMembers_eq_error {kind : PrimitiveKind} {isFlags : Bool}
    (failed : ofMembers name kind isFlags members = .error reason) :
    (kind.width? = none ∧ reason = .unusableUnderlying name kind.qualifiedName) ∨
      ∃ width, fault? name width [] members = some reason := by
  unfold ofMembers at failed
  split at failed
  · next unsized =>
    cases failed
    exact .inl ⟨unsized, rfl⟩
  split at failed
  · next found =>
    cases failed
    exact .inr ⟨_, found⟩
  · cases failed

/-- The underlying type is looked at first, then values are given to the members, then the members
are checked. -/
theorem ofDeclaration_eq_error {declaration : EnumerationDeclaration}
    (failed : ofDeclaration name declaration = .error reason) :
    Declaration.Faults name (.enumeration declaration) reason := by
  rcases bind_eq_error_iff.1 failed with unknown | ⟨kind, chosen, failed⟩
  · obtain ⟨given, named, rfl⟩ := underlyingKind_eq_error unknown
    exact .unusableUnderlying rfl named
  rcases bind_eq_error_iff.1 failed with unassigned | ⟨members, assigned, failed⟩
  · obtain ⟨member, mem, value, rfl⟩ := assignValues_eq_error unassigned
    exact .memberOutOfRange (List.mem_map_of_mem mem)
  obtain ⟨-, rfl⟩ := assignValues_eq_elaborated_iff.1 assigned
  have names : (elaborated declaration).map Member.name =
      (Declaration.enumeration declaration).memberNames := names_elaborated
  rcases ofMembers_eq_error failed with ⟨unsized, rfl⟩ | ⟨width, found⟩
  · exact .unusableUnderlying rfl (underlying_of_width?_eq_none chosen unsized)
  rcases fault?_eq_some found with ⟨member, mem, rfl⟩ | ⟨member, rfl, counted⟩
  · exact .memberOutOfRange (names ▸ List.mem_map_of_mem mem)
  · exact .repeatedMember (names ▸ counted)

end Enumeration

theorem StructuredType.ofDeclaration_eq_error {category : StructuredCategory}
    {declaration : StructuredDeclaration}
    (failed : ofDeclaration name category declaration = .error reason) :
    ∃ element, reason = .repeatedElement name element ∧
      2 ≤ (declaration.properties.map Property.name ++
        declaration.navigations.map NavigationProperty.name).count element := by
  unfold ofDeclaration at failed
  dsimp only at failed
  split at failed
  · next element found =>
    cases failed
    have counted := count_of_firstRepeated? found
    rw [List.map_append, List.map_map, List.map_map] at counted
    exact ⟨element, rfl, counted⟩
  · cases failed

/-- Whatever keeps a type from being built is a fault of its declaration. -/
theorem Declaration.faults_of_build {declaration : Declaration}
    (failed : declaration.build name = .error reason) : declaration.Faults name reason := by
  cases declaration with
  | enumeration declaration =>
    exact Enumeration.ofDeclaration_eq_error (map_eq_error_iff.1 failed)
  | complex declaration | entity declaration =>
    obtain ⟨element, rfl, counted⟩ :=
      StructuredType.ofDeclaration_eq_error (map_eq_error_iff.1 failed)
    exact .repeatedElement counted

end EntityModel
