import EntityModel.Proofs.Enumeration.RoundTrip
import EntityModel.Proofs.Outcome

/-!
What is built from the declaration of an enumeration. Members that have no number of their own count
on from the member before. If an underlying integer type is named and counting never runs past the
greatest 64-bit number, the members are looked at in their order, and the first one that does not
fit decides about the error.
-/

set_option autoImplicit false

namespace EntityModel

theorem PrimitiveKind.ofQualifiedName?_qualifiedName (kind : PrimitiveKind) :
    ofQualifiedName? kind.qualifiedName = some kind := by
  cases kind with
  | floating format => cases format <;> rfl
  | integer width => cases width <;> rfl
  | _ => rfl

theorem PrimitiveKind.width?_eq_some_iff {kind : PrimitiveKind} {width : IntegerWidth} :
    kind.width? = some width ↔ kind = .integer width := by
  cases kind <;> simp [width?]

namespace EnumerationDeclaration

/-- The number that the member at a position is given by itself. -/
def ownNumber? (members : List MemberDeclaration) (position : Nat) : Option Int :=
  (members[position]?.bind MemberDeclaration.value).map Int64.toInt

/-- The number of the member at a position: its own, or one more than the number of the member
before. Counting begins at `start`. -/
def numberFrom (start : Int) (members : List MemberDeclaration) : Nat → Int
  | 0 => (ownNumber? members 0).getD start
  | position + 1 =>
    (ownNumber? members (position + 1)).getD (numberFrom start members position + 1)

variable (declaration : EnumerationDeclaration)

def number (position : Nat) : Int := numberFrom 0 declaration.members position

/-- The declaration is over the integers of a width: it names them, or nothing for 32 bits. -/
def IsOver (width : IntegerWidth) : Prop :=
  match declaration.underlying with
  | none => width = .int32
  | some underlying => underlying = (PrimitiveKind.integer width).qualifiedName

/-- No member without a number of its own comes right after the greatest number. -/
def CountsOn : Prop :=
  ∀ position member, declaration.members[position + 1]? = some member → member.value = none →
    declaration.number position ≠ Int64.maxValue.toInt

/-- The name of the member at a position, if there is one. -/
def nameAt? (position : Nat) : Option String :=
  declaration.members[position]?.map MemberDeclaration.name

/-- The member at a position has the name of an earlier one. -/
def Repeats (position : Nat) : Prop :=
  ∃ earlier < position, declaration.nameAt? earlier = declaration.nameAt? position

/-- The member at a position does not fit the width, or it has the name of an earlier one. -/
def Offends (width : IntegerWidth) (position : Nat) : Prop :=
  ¬ width.Contains (declaration.number position) ∨ declaration.Repeats position

instance (position : Nat) : Decidable (declaration.Repeats position) :=
  inferInstanceAs (Decidable (∃ earlier < position,
    declaration.nameAt? earlier = declaration.nameAt? position))

instance (width : IntegerWidth) (position : Nat) :
    Decidable (declaration.Offends width position) :=
  inferInstanceAs (Decidable (_ ∨ _))

/-- A member has the name and the number that are declared at a position. -/
structure Declares (position : Nat) (member : Member) : Prop where
  named : declaration.nameAt? position = some member.name
  numbered : member.value.toInt = declaration.number position

variable {declaration}

theorem Declares.within {position : Nat} {member : Member}
    (declares : declaration.Declares position member) : position ≤ declaration.members.length := by
  obtain ⟨declared, found, -⟩ := Option.map_eq_some_iff.1 declares.named
  exact (List.getElem?_eq_some_iff.1 found).1.le

section Counting

variable {start : Int} {first : MemberDeclaration} {rest : List MemberDeclaration}

theorem numberFrom_cons_succ (position : Nat) :
    numberFrom start (first :: rest) (position + 1) =
      numberFrom (numberFrom start (first :: rest) 0 + 1) rest position := by
  induction position with
  | zero => rfl
  | succ position ih =>
    calc numberFrom start (first :: rest) (position + 2)
        = (ownNumber? rest (position + 1)).getD
            (numberFrom start (first :: rest) (position + 1) + 1) := rfl
      _ = numberFrom (numberFrom start (first :: rest) 0 + 1) rest (position + 1) := by
        rw [ih]
        rfl

theorem contains_of_ownNumber? {members : List MemberDeclaration} {position : Nat} {n : Int}
    (given : ownNumber? members position = some n) : IntegerWidth.int64.Contains n := by
  obtain ⟨value, -, rfl⟩ := Option.map_eq_some_iff.1 given
  exact IntegerWidth.contains_int64 value

theorem number_succ {position : Nat} {member : MemberDeclaration}
    (found : declaration.members[position + 1]? = some member) (unnumbered : member.value = none) :
    declaration.number (position + 1) = declaration.number position + 1 := by
  have absent : ownNumber? declaration.members (position + 1) = none := by
    simp [ownNumber?, found, unnumbered]
  rw [number, numberFrom, absent]
  rfl

/-- Numbers that members have by themselves are 64-bit numbers, so counting on is all that could
leave them. -/
theorem countsOn_iff :
    declaration.CountsOn ↔
      ∀ position < declaration.members.length,
        IntegerWidth.int64.Contains (declaration.number position) := by
  constructor
  · intro counts position below
    induction position with
    | zero =>
      rw [number, numberFrom]
      cases given : ownNumber? declaration.members 0 with
      | none => decide
      | some n => exact contains_of_ownNumber? given
    | succ position ih =>
      cases given : ownNumber? declaration.members (position + 1) with
      | some n =>
        rw [number, numberFrom, given]
        exact contains_of_ownNumber? given
      | none =>
        have found := List.getElem?_eq_getElem below
        have unnumbered : declaration.members[position + 1].value = none := by
          simpa [ownNumber?, found] using given
        obtain ⟨least, greatest⟩ := ih (Nat.lt_of_succ_lt below)
        have less := Int.lt_iff_le_and_ne.2 ⟨greatest, counts position _ found unnumbered⟩
        rw [number_succ found unnumbered]
        exact ⟨Int.le_add_one least, Int.add_one_le_of_lt less⟩
  · intro inRange position member found unnumbered greatest
    have below := (List.getElem?_eq_some_iff.1 found).1
    have beyond := (inRange (position + 1) below).2
    rw [number_succ found unnumbered, greatest] at beyond
    exact absurd beyond (by decide)

end Counting

end EnumerationDeclaration

namespace Enumeration

open EnumerationDeclaration

variable {name : QualifiedName} {width : IntegerWidth} {members : List Member}
  {declaration : EnumerationDeclaration} {reason : SchemaError} {e : Enumeration}

section Assignment

variable {start : Int} {declared : List MemberDeclaration}

/-- A number as the value of a member, unless it takes more than 64 bits. -/
def fit? (n : Int) : Option Int64 :=
  if IntegerWidth.int64.Contains n then some (Int64.ofInt n) else none

theorem fit?_eq_none_iff {n : Int} : fit? n = none ↔ ¬ IntegerWidth.int64.Contains n := by
  simp [fit?]

theorem fit?_eq_some_iff {n : Int} {value : Int64} : fit? n = some value ↔ n = value.toInt := by
  rw [fit?, Option.ite_none_right_eq_some]
  constructor
  · rintro ⟨fits, same⟩
    cases same
    exact (Int64.toInt_ofInt_of_le fits.1 (Int.lt_of_le_sub_one fits.2)).symm
  · rintro rfl
    exact ⟨IntegerWidth.contains_int64 value, congrArg some value.ofInt_toInt⟩

theorem following_eq (value : Int64) : following value = fit? (value.toInt + 1) := by
  rw [following]
  split
  · next greatest =>
    rw [greatest]
    rfl
  · next less =>
    have apart : value.toInt ≠ Int64.maxValue.toInt := mt Int64.toInt_inj.1 less
    have below : value.toInt < 2 ^ 63 - 1 :=
      Int.lt_iff_le_and_ne.2 ⟨(IntegerWidth.contains_int64 value).2, apart⟩
    have least := value.le_toInt
    refine (fit?_eq_some_iff.2 ?_).symm
    have one : (1 : Int64).toInt = 1 := rfl
    rw [Int64.toInt_add, one, Int.bmod_eq_of_le (by omega) (by omega)]

theorem assignValues_cons {first : MemberDeclaration} {rest : List MemberDeclaration}
    {next : Option Int64} {value : Int64} (given : first.value.or next = some value) :
    assignValues name next (first :: rest) =
      (assignValues name (following value) rest).map (⟨first.name, value⟩ :: ·) := by
  simp only [assignValues, given]
  cases assignValues name (following value) rest <;> rfl

/-- The first member takes its own number or the one that counting begins with. -/
theorem value_or_fit? (first : MemberDeclaration) (rest : List MemberDeclaration) :
    first.value.or (fit? start) = fit? (numberFrom start (first :: rest) 0) := by
  obtain ⟨_, own⟩ := first
  cases own with
  | none => rfl
  | some value => exact (fit?_eq_some_iff.2 rfl).symm

theorem assignValues_eq_ok_iff :
    assignValues name (fit? start) declared = .ok members ↔
      (∀ position < declared.length,
        IntegerWidth.int64.Contains (numberFrom start declared position)) ∧
        members = declared.mapIdx fun position member =>
          ⟨member.name, .ofInt (numberFrom start declared position)⟩ := by
  induction declared generalizing start members with
  | nil => simp [assignValues, eq_comm]
  | cons first rest ih =>
    have given : first.value.or (fit? start) = _ := value_or_fit? first rest
    rw [List.length_cons, Nat.forall_lt_succ_left, List.mapIdx_cons]
    simp only [numberFrom_cons_succ]
    cases fits : fit? (numberFrom start (first :: rest) 0) with
    | none =>
      rw [assignValues, given, fits]
      have unfit := fit?_eq_none_iff.1 fits
      simp [unfit]
    | some value =>
      -- The other members count on from the number of the first, so they are numbered from there.
      have number := fit?_eq_some_iff.1 fits
      rw [assignValues_cons (given.trans fits), map_eq_ok_iff, following_eq, number,
        Int64.ofInt_toInt]
      simp only [ih, IntegerWidth.contains_int64 value, true_and]
      constructor
      · rintro ⟨others, ⟨inRange, rfl⟩, rfl⟩
        exact ⟨inRange, rfl⟩
      · rintro ⟨inRange, rfl⟩
        exact ⟨_, ⟨inRange, rfl⟩, rfl⟩

end Assignment

section Checking

/-- The members before the first one at fault are sound, and a value out of range counts before a
repeated name. -/
theorem fault?_eq_some_iff {taken : List String} :
    fault? name width taken members = some reason ↔
      ∃ position member, members[position]? = some member ∧
        fault? name width taken (members.take position) = none ∧
        (¬ width.Contains member.value.toInt ∧
            reason = .memberOutOfRange name member.name member.value ∨
          width.Contains member.value.toInt ∧
            (member.name ∈ taken ∨ member.name ∈ (members.take position).map Member.name) ∧
            reason = .repeatedMember name member.name) := by
  induction members generalizing taken with
  | nil => simp [fault?]
  | cons first rest ih =>
    rw [fault?, ← Nat.or_exists_add_one]
    -- A first member at fault is found at once; else its name is taken for those after it.
    by_cases fits : width.Contains first.value.toInt
    · by_cases repeated : first.name ∈ taken
      · simp [fault?, fits, repeated, eq_comm]
      · simp [fault?, fits, repeated, ih, or_left_comm, or_assoc]
    · simp [fault?, fits, eq_comm]

theorem ofMembers_eq_ok_iff {kind : PrimitiveKind} {isFlags : Bool} :
    ofMembers name kind isFlags members = .ok e ↔
      kind = .integer e.underlying ∧ e.name = name ∧ e.isFlags = isFlags ∧
        e.members = members := by
  constructor
  · intro made
    unfold ofMembers at made
    split at made
    · cases made
    · next width sized =>
      split at made
      · cases made
      · cases made
        exact ⟨PrimitiveKind.width?_eq_some_iff.1 sized, rfl, rfl, rfl⟩
  · rintro ⟨rfl, rfl, rfl, rfl⟩
    have faultless : fault? e.name e.underlying [] e.members = none :=
      (fault?_eq_none_iff ..).2 ⟨e.inRange, e.distinct, fun _ _ => List.not_mem_nil⟩
    simp only [ofMembers, PrimitiveKind.width?]
    split
    · next found =>
      rw [faultless] at found
      cases found
    · rfl

theorem ofMembers_integer_eq_error_iff {isFlags : Bool} :
    ofMembers name (.integer width) isFlags members = .error reason ↔
      fault? name width [] members = some reason := by
  simp only [ofMembers, PrimitiveKind.width?]
  split <;> next found => simp [found]

/-- Only the integer types and a type left out lead to a width. -/
theorem underlyingKind_eq_integer_iff :
    underlyingKind name declaration.underlying = .ok (.integer width) ↔
      declaration.IsOver width := by
  rw [IsOver]
  cases declaration.underlying with
  | none => simp [underlyingKind, eq_comm]
  | some underlying =>
    rw [underlyingKind]
    constructor
    · intro chosen
      split at chosen
      · next found =>
        cases chosen
        exact (PrimitiveKind.qualifiedName_of_ofQualifiedName? found).symm
      · cases chosen
    · rintro rfl
      rw [PrimitiveKind.ofQualifiedName?_qualifiedName]

end Checking

section Elaboration

/-- The members that a declaration stands for. -/
def elaborated (declaration : EnumerationDeclaration) : List Member :=
  declaration.members.mapIdx fun position member =>
    ⟨member.name, .ofInt (declaration.number position)⟩

variable {position count : Nat} {member : Member}

theorem getElem?_elaborated (counts : declaration.CountsOn) :
    (elaborated declaration)[position]? = some member ↔ declaration.Declares position member := by
  rw [elaborated, List.getElem?_mapIdx, Option.map_eq_some_iff]
  constructor
  · rintro ⟨declared, found, rfl⟩
    have fits := countsOn_iff.1 counts position (List.getElem?_eq_some_iff.1 found).1
    exact ⟨by rw [nameAt?, found]; rfl,
      Int64.toInt_ofInt_of_le fits.1 (Int.lt_of_le_sub_one fits.2)⟩
  · rintro ⟨named, numbered⟩
    obtain ⟨declared, found, same⟩ := Option.map_eq_some_iff.1 named
    refine ⟨declared, found, ?_⟩
    rw [same, ← numbered, Int64.ofInt_toInt]

theorem length_elaborated : (elaborated declaration).length = declaration.members.length :=
  List.length_mapIdx

theorem names_elaborated :
    (elaborated declaration).map Member.name = declaration.members.map MemberDeclaration.name := by
  refine List.ext_getElem? fun position => ?_
  rw [elaborated, List.getElem?_map, List.getElem?_mapIdx, Option.map_map, List.getElem?_map]
  rfl

theorem getElem?_names_take :
    (((elaborated declaration).take count).map Member.name)[position]? =
      if position < count then declaration.nameAt? position else none := by
  rw [List.map_take, names_elaborated, List.getElem?_take, List.getElem?_map]
  rfl

theorem contains_take_iff (counts : declaration.CountsOn)
    (within : count ≤ declaration.members.length) :
    (∀ member ∈ (elaborated declaration).take count, width.Contains member.value.toInt) ↔
      ∀ position < count, width.Contains (declaration.number position) := by
  have numbered {position : Nat} (place : position < (elaborated declaration).length) :=
    ((getElem?_elaborated counts).1 (List.getElem?_eq_getElem place)).numbered
  constructor
  · intro inRange position below
    have place : position < (elaborated declaration).length :=
      length_elaborated ▸ below.trans_le within
    rw [← numbered place]
    exact inRange _ (List.mem_take_iff_getElem.2 ⟨position, Nat.lt_min.2 ⟨below, place⟩, rfl⟩)
  · intro inRange member mem
    obtain ⟨position, below, rfl⟩ := List.mem_take_iff_getElem.1 mem
    obtain ⟨early, place⟩ := Nat.lt_min.1 below
    rw [numbered place]
    exact inRange position early

theorem nodup_names_take_iff (within : count ≤ declaration.members.length) :
    (((elaborated declaration).take count).map Member.name).Nodup ↔
      ∀ position < count, ¬ declaration.Repeats position := by
  have length : (((elaborated declaration).take count).map Member.name).length = count := by
    rw [List.length_map, List.length_take, length_elaborated, Nat.min_eq_left within]
  rw [List.nodup_iff_getElem?_ne_getElem?, length]
  constructor
  · rintro distinct position below ⟨earlier, before, same⟩
    refine distinct earlier position before below ?_
    rw [getElem?_names_take, getElem?_names_take, if_pos below, if_pos (before.trans below), same]
  · intro fresh earlier position before below same
    rw [getElem?_names_take, getElem?_names_take, if_pos below, if_pos (before.trans below)]
      at same
    exact fresh position below ⟨earlier, before, same⟩

theorem contains_elaborated_iff (counts : declaration.CountsOn) :
    (∀ member ∈ elaborated declaration, width.Contains member.value.toInt) ↔
      ∀ position < declaration.members.length, width.Contains (declaration.number position) := by
  rw [← contains_take_iff counts (Nat.le_refl _), List.take_of_length_le length_elaborated.le]

theorem fault?_take_eq_none_iff (counts : declaration.CountsOn)
    (within : count ≤ declaration.members.length) :
    fault? name width [] ((elaborated declaration).take count) = none ↔
      ∀ position < count, ¬ declaration.Offends width position := by
  rw [fault?_eq_none_iff, contains_take_iff counts within, nodup_names_take_iff within]
  simp only [Offends, not_or, not_not, List.not_mem_nil, not_false_eq_true, implies_true, and_true,
    forall_and]

theorem mem_names_take_iff (declares : declaration.Declares position member) :
    member.name ∈ ((elaborated declaration).take position).map Member.name ↔
      declaration.Repeats position := by
  simp only [List.mem_iff_getElem?, getElem?_names_take, Option.ite_none_right_eq_some, Repeats,
    declares.named]

theorem assignValues_eq_elaborated_iff :
    assignValues name (some 0) declaration.members = .ok members ↔
      declaration.CountsOn ∧ members = elaborated declaration := by
  rw [countsOn_iff]
  change assignValues name (fit? 0) declaration.members = .ok members ↔ _
  exact assignValues_eq_ok_iff

theorem ofDeclaration_eq_ok_iff :
    ofDeclaration name declaration = .ok e ↔
      declaration.IsOver e.underlying ∧ declaration.CountsOn ∧ e.name = name ∧
        e.isFlags = declaration.isFlags ∧ e.members = elaborated declaration := by
  rw [ofDeclaration, bind_eq_ok_iff]
  simp only [bind_eq_ok_iff, assignValues_eq_elaborated_iff, ofMembers_eq_ok_iff]
  constructor
  · rintro ⟨kind, chosen, members, ⟨counts, rfl⟩, rfl, named, flags, same⟩
    exact ⟨underlyingKind_eq_integer_iff.1 chosen, counts, named, flags, same⟩
  · rintro ⟨typed, counts, named, flags, same⟩
    exact ⟨_, underlyingKind_eq_integer_iff.2 typed, _, ⟨counts, rfl⟩, rfl, named, flags, same⟩

theorem ofDeclaration_eq_error_iff (typed : declaration.IsOver width)
    (counts : declaration.CountsOn) :
    ofDeclaration name declaration = .error reason ↔
      fault? name width [] (elaborated declaration) = some reason := by
  have chosen : underlyingKind name declaration.underlying = .ok (.integer width) :=
    underlyingKind_eq_integer_iff.2 typed
  have assigned : assignValues name (some 0) declaration.members = .ok (elaborated declaration) :=
    assignValues_eq_elaborated_iff.2 ⟨counts, rfl⟩
  rw [ofDeclaration, chosen, ok_bind, assigned, ok_bind, ofMembers_integer_eq_error_iff]

end Elaboration

/-- An enumeration is built exactly if the underlying type is one of integers, counting never runs
out of numbers, the names differ and all numbers fit. It has the declared members in their order,
and each is found under its name. If only names and ranges are in question, the error is that of the
first member that offends, and a number out of range counts before a repeated name. -/
theorem elaborated_exactly (name : QualifiedName) (declaration : EnumerationDeclaration) :
    ((∃ e, ofDeclaration name declaration = .ok e) ↔
      ∃ width, declaration.IsOver width ∧ declaration.CountsOn ∧
        (declaration.members.map MemberDeclaration.name).Nodup ∧
        ∀ position < declaration.members.length,
          width.Contains (declaration.number position)) ∧
    (∀ e, ofDeclaration name declaration = .ok e →
      e.name = name ∧ e.isFlags = declaration.isFlags ∧ declaration.IsOver e.underlying ∧
        e.members.length = declaration.members.length ∧
        (∀ position member,
          e.members[position]? = some member ↔ declaration.Declares position member) ∧
        ∀ sought member, e.member? sought = some member ↔
          member.name = sought ∧ ∃ position, declaration.Declares position member) ∧
    ∀ width, declaration.IsOver width → declaration.CountsOn → ∀ reason,
      ofDeclaration name declaration = .error reason ↔
        ∃ position member, declaration.Declares position member ∧
          declaration.Offends width position ∧
          (∀ earlier < position, ¬ declaration.Offends width earlier) ∧
          reason = if width.Contains member.value.toInt then .repeatedMember name member.name
            else .memberOutOfRange name member.name member.value := by
  refine ⟨⟨?_, ?_⟩, ?_, ?_⟩
  · rintro ⟨e, made⟩
    obtain ⟨typed, counts, -, -, same⟩ := ofDeclaration_eq_ok_iff.1 made
    refine ⟨e.underlying, typed, counts, ?_, (contains_elaborated_iff counts).1 (same ▸ e.inRange)⟩
    rw [← names_elaborated, ← same]
    exact e.distinct
  · rintro ⟨width, typed, counts, distinct, inRange⟩
    exact ⟨⟨name, width, declaration.isFlags, elaborated declaration,
        (contains_elaborated_iff counts).2 inRange, names_elaborated.symm ▸ distinct⟩,
      ofDeclaration_eq_ok_iff.2 ⟨typed, counts, rfl, rfl, rfl⟩⟩
  · intro e made
    obtain ⟨typed, counts, named, flags, same⟩ := ofDeclaration_eq_ok_iff.1 made
    refine ⟨named, flags, typed, same ▸ length_elaborated, ?_, ?_⟩
    · intro position member
      rw [same, getElem?_elaborated counts]
    · intro sought member
      rw [member?, find?_key_eq_some_iff e.distinct, and_comm, same, List.mem_iff_getElem?]
      simp only [getElem?_elaborated counts]
  · -- Members are looked at by position, on both sides in their order.
    intro width typed counts reason
    rw [ofDeclaration_eq_error_iff typed counts, fault?_eq_some_iff]
    refine exists_congr fun position => exists_congr fun member => ?_
    rw [getElem?_elaborated counts, and_congr_right_iff]
    intro declares
    rw [fault?_take_eq_none_iff counts declares.within, mem_names_take_iff declares, Offends,
      declares.numbered]
    by_cases fits : width.Contains (declaration.number position) <;>
      simp [fits, and_left_comm]

theorem elaborated_exactly_sample :
    (∃ e, ofDeclaration ⟨"ns", "Size"⟩ ⟨"Size", none, false,
      [⟨"Small", none⟩, ⟨"Large", some 10⟩, ⟨"Huge", none⟩]⟩ = .ok e) ∧
    ofDeclaration ⟨"ns", "Octet"⟩ ⟨"Octet", some (.primitive "Byte"), false,
      [⟨"Last", some 255⟩, ⟨"Next", none⟩, ⟨"Last", none⟩]⟩ =
        .error (.memberOutOfRange ⟨"ns", "Octet"⟩ "Next" 256) :=
  ⟨(elaborated_exactly _ _).1.2 ⟨.int32, by rfl, countsOn_iff.2 (by decide), by decide, by decide⟩,
    ((elaborated_exactly _ _).2.2 .byte (by rfl) (countsOn_iff.2 (by decide)) _).2
      ⟨1, ⟨"Next", 256⟩, ⟨by decide, by decide⟩, by decide, by decide, by decide⟩⟩

end Enumeration

end EntityModel
