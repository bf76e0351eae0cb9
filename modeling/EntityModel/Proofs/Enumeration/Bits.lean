import EntityModel.Enumeration.Literal

/-!
Bits of the values of members. A value is within another one if all its bits are, and a combination
of members is within a value exactly if every member is; so the members that a value contains
combine to the value as soon as any members do.
-/

set_option autoImplicit false

namespace EntityModel.Enumeration

/-- All bits of the first value are bits of the second. -/
def Within (first second : Int64) : Prop := first &&& second = first

section Order

variable {first second third : Int64}

theorem within_iff :
    Within first second ↔
      ∀ i, first.toBitVec.getLsbD i = true → second.toBitVec.getLsbD i = true := by
  rw [Within, ← Int64.toBitVec_inj, Int64.toBitVec_and]
  constructor
  · intro same i set
    rw [← same, BitVec.getLsbD_and, Bool.and_eq_true] at set
    exact set.2
  · intro bitwise
    apply BitVec.eq_of_getLsbD_eq
    intro i _
    rw [BitVec.getLsbD_and]
    cases set : first.toBitVec.getLsbD i with
    | false => rfl
    | true => rw [bitwise i set, Bool.true_and]

theorem within_self (value : Int64) : Within value value := Int64.and_self

theorem zero_within (value : Int64) : Within 0 value := Int64.zero_and

theorem Within.trans (one : Within first second) (two : Within second third) :
    Within first third :=
  within_iff.2 fun i set => within_iff.1 two i (within_iff.1 one i set)

theorem Within.antisymm (one : Within first second) (two : Within second first) :
    first = second := by
  rw [← one, Int64.and_comm, two]

theorem within_or_left (first second : Int64) : Within first (first ||| second) := by
  rw [within_iff]
  intro i set
  rw [Int64.toBitVec_or, BitVec.getLsbD_or, set, Bool.true_or]

theorem within_or_right (first second : Int64) : Within second (first ||| second) := by
  rw [within_iff]
  intro i set
  rw [Int64.toBitVec_or, BitVec.getLsbD_or, set, Bool.or_true]

theorem or_within_iff :
    Within (first ||| second) third ↔ Within first third ∧ Within second third := by
  constructor
  · intro both
    exact ⟨(within_or_left first second).trans both, (within_or_right first second).trans both⟩
  · rintro ⟨one, two⟩
    rw [within_iff]
    intro i set
    rw [Int64.toBitVec_or, BitVec.getLsbD_or, Bool.or_eq_true] at set
    rcases set with set | set
    · exact within_iff.1 one i set
    · exact within_iff.1 two i set

/-- No bit of the first value is left over by the second. -/
theorem and_not_eq_zero_iff : first &&& ~~~ second = 0 ↔ Within first second := by
  rw [within_iff, ← Int64.toBitVec_inj, Int64.toBitVec_and, Int64.toBitVec_not]
  constructor
  · intro none i set
    have zero := congrArg (BitVec.getLsbD · i) none
    have below : i < 64 := BitVec.lt_of_getLsbD set
    simpa [set, below] using zero
  · intro bitwise
    apply BitVec.eq_of_getLsbD_eq
    intro i below
    cases set : first.toBitVec.getLsbD i with
    | false => simp [set]
    | true => simp [set, bitwise i set]

end Order

section Members

variable {e : Enumeration} {members : List Member} {member : Member} {value : Int64}

theorem bits_within_iff :
    Within (bits members) value ↔ ∀ member ∈ members, Within member.value value := by
  induction members with
  | nil => simpa [bits] using zero_within value
  | cons first rest ih =>
    rw [bits, List.foldr_cons, or_within_iff, List.forall_mem_cons]
    exact and_congr_right' ih

theorem Within.bits (mem : member ∈ members) : Within member.value (Enumeration.bits members) :=
  bits_within_iff.1 (within_self _) member mem

theorem bits_eq_zero_iff : bits members = 0 ↔ ∀ member ∈ members, member.value = 0 := by
  induction members with
  | nil => simp [bits]
  | cons first rest ih =>
    rw [bits, List.foldr_cons, Int64.or_eq_zero_iff, List.forall_mem_cons]
    exact and_congr_right' ih

theorem mem_contained_iff :
    member ∈ e.contained value ↔
      member ∈ e.members ∧ member.value ≠ 0 ∧ Within member.value value := by
  simp [contained, Within]

theorem bits_contained_within (e : Enumeration) (value : Int64) :
    Within (bits (e.contained value)) value :=
  bits_within_iff.2 fun _ mem => (mem_contained_iff.1 mem).2.2

/-- If any members combine to a value, those that it contains do. -/
theorem bits_contained_bits (declared : ∀ member ∈ members, member ∈ e.members) :
    bits (e.contained (bits members)) = bits members := by
  refine (bits_contained_within e _).antisymm (bits_within_iff.2 fun member mem => ?_)
  by_cases zero : member.value = 0
  · rw [zero]
    exact zero_within _
  · exact .bits (mem_contained_iff.2 ⟨declared member mem, zero, .bits mem⟩)

end Members

end EntityModel.Enumeration
