import EntityModel.Proofs.Enumeration.RoundTrip

/-!
What an enumeration can write. One pass over the members finds a combination of flags if there is
any: all members that a value contains are named, and where they leave bits over, so does every
other choice of members.
-/

set_option autoImplicit false

namespace EntityModel.Enumeration

/-- A value has the bit at a position, counted from the least one. -/
def HasBit (value : Int64) (position : Nat) : Prop := value.toBitVec.getLsbD position = true

section Bits

variable {first second value : Int64} {position : Nat} {members : List Member} {e : Enumeration}

theorem not_hasBit_zero (position : Nat) : ¬ HasBit 0 position := by
  simp [HasBit]

theorem hasBit_or_iff :
    HasBit (first ||| second) position ↔ HasBit first position ∨ HasBit second position := by
  rw [HasBit, Int64.toBitVec_or, BitVec.getLsbD_or, Bool.or_eq_true]
  rfl

/-- What one value leaves over of another one. -/
theorem hasBit_and_not_iff :
    HasBit (first &&& ~~~ second) position ↔ HasBit first position ∧ ¬ HasBit second position := by
  simp only [HasBit, Int64.toBitVec_and, Int64.toBitVec_not, BitVec.getLsbD_and,
    BitVec.getLsbD_not, Bool.and_eq_true, decide_eq_true_eq, Bool.not_eq_true', Bool.not_eq_true]
  constructor
  · rintro ⟨set, -, unset⟩
    exact ⟨set, unset⟩
  · rintro ⟨set, unset⟩
    exact ⟨set, BitVec.lt_of_getLsbD set, unset⟩

theorem hasBit_bits_iff :
    HasBit (bits members) position ↔ ∃ member ∈ members, HasBit member.value position := by
  induction members with
  | nil => simpa [bits] using not_hasBit_zero position
  | cons first rest ih =>
    rw [bits, List.foldr_cons, hasBit_or_iff]
    simp only [List.mem_cons, exists_eq_or_imp]
    exact or_congr_right ih

/-- The bits of a value that no member within it has. -/
theorem hasBit_residual_iff :
    HasBit (value &&& ~~~ bits (e.contained value)) position ↔
      HasBit value position ∧ ∀ member ∈ e.members, member.value ≠ 0 →
        Within member.value value → ¬ HasBit member.value position := by
  rw [hasBit_and_not_iff, hasBit_bits_iff]
  simp only [mem_contained_iff, not_exists, not_and, and_imp]

end Bits

section Choice

variable {e : Enumeration} {value : Int64} {chosen : List Member}

theorem selects_iff_of_flags (flags : e.isFlags = true) :
    e.Selects chosen ↔ chosen ≠ [] ∧ ∀ member ∈ chosen, member ∈ e.members := by
  constructor
  · intro selects
    exact ⟨selects.nonempty, selects.declared⟩
  · rintro ⟨nonempty, declared⟩
    exact ⟨nonempty, declared, fun plain => absurd (flags.symm.trans plain) (by decide)⟩

theorem exists_selects_iff_of_plain (plain : e.isFlags = false) :
    (∃ chosen, e.Selects chosen ∧ bits chosen = value) ↔
      ∃ member ∈ e.members, member.value = value := by
  constructor
  · rintro ⟨chosen, selects, rfl⟩
    obtain ⟨member, rfl⟩ := List.length_eq_one_iff.1 (selects.single plain)
    exact ⟨member, selects.declared member List.mem_cons_self, by simp [bits]⟩
  · rintro ⟨member, declared, rfl⟩
    exact ⟨[member], ⟨by simp, by simpa using declared, fun _ => rfl⟩, by simp [bits]⟩

end Choice

section Writing

variable {e : Enumeration} {value : Int64} {member : Member} {literal : String}
  {reason : ConversionError}

theorem write_int64 (e : Enumeration) (facets : Facets) (value : Int64) :
    (ScalarType.enumeration e).write facets (some (.integer .int64 (.ofInt64 value))) =
      (e.writeValue value).map some := by
  rw [ScalarType.write, write, Value.toInt?]
  simp only [SizedInt.ofInt64, Int64.ofInt_toInt]

/-- A value can be written exactly if some members combine to it that a literal may name. -/
theorem exists_writeValue_iff :
    (∃ literal, e.writeValue value = .ok literal) ↔
      ∃ chosen, e.Selects chosen ∧ bits chosen = value := by
  constructor
  · rintro ⟨literal, written⟩
    obtain ⟨chosen, selects, combined, -⟩ := writeValue_eq_ok written
    exact ⟨chosen, selects, combined⟩
  · rintro ⟨chosen, selects, rfl⟩
    exact exists_writeValue selects

theorem writeValue_of_isFirst (single : e.isFlags = false ∨ value = 0)
    (first : IsFirst (fun other => other.value = value) e.members member) :
    e.writeValue value = .ok member.name := by
  have found : e.members.find? (·.value == value) = some member :=
    find?_eq_some_iff_isFirst.2 (by simpa using first)
  rw [writeValue, if_pos (single.imp_left (by simp)), found]

theorem writeValue_of_undeclared (single : e.isFlags = false ∨ value = 0)
    (undeclared : ∀ member ∈ e.members, member.value ≠ value) :
    e.writeValue value = .error (.unknownValue e.name value.toInt) := by
  have none : e.members.find? (·.value == value) = none :=
    List.find?_eq_none.2 (by simpa using undeclared)
  rw [writeValue, if_pos (single.imp_left (by simp)), none]

theorem writeValue_of_flags (flags : e.isFlags = true) (nonzero : value ≠ 0) :
    e.writeValue value =
      if value &&& ~~~ bits (e.contained value) ≠ 0 then
        .error (.uncoveredBits e.name (value &&& ~~~ bits (e.contained value)))
      else .ok (",".intercalate ((e.contained value).map Member.name)) := by
  rw [writeValue, if_neg (by simp [flags, nonzero])]

/-- A combination of flags is written with the names of all members within it, as declared. -/
theorem named_of_writeValue (flags : e.isFlags = true) (nonzero : value ≠ 0)
    (written : e.writeValue value = .ok literal) :
    ∃ named : List Member, named.Sublist e.members ∧
      (∀ member, member ∈ named ↔
        member ∈ e.members ∧ member.value ≠ 0 ∧ Within member.value value) ∧
      literal = ",".intercalate (named.map Member.name) := by
  rw [writeValue_of_flags flags nonzero] at written
  split at written
  · cases written
  · cases written
    exact ⟨e.contained value, List.filter_sublist, fun member => mem_contained_iff, rfl⟩

/-- A combination of flags that cannot be written is refused with the bits that are left over. -/
theorem uncovered_of_writeValue (flags : e.isFlags = true) (nonzero : value ≠ 0)
    (failed : e.writeValue value = .error reason) :
    ∃ rest, reason = .uncoveredBits e.name rest ∧
      ∀ position, HasBit rest position ↔
        HasBit value position ∧ ∀ member ∈ e.members, member.value ≠ 0 →
          Within member.value value → ¬ HasBit member.value position := by
  rw [writeValue_of_flags flags nonzero] at failed
  split at failed
  · cases failed
    exact ⟨_, rfl, fun position => hasBit_residual_iff⟩
  · cases failed

end Writing

/-- An enumeration of flags writes a value exactly if some of its members combine to it, whichever
these are. For a value with bits it then names all members with bits that are within the value, as
they are declared, and else it reports the bits that none of them has. Without flags, and for the
value zero, the first member with the value is named. -/
theorem written_exactly (e : Enumeration) (facets : Facets) (value : Int64) :
    let written :=
      (ScalarType.enumeration e).write facets (some (.integer .int64 (.ofInt64 value)))
    (e.isFlags = true →
      ((∃ literal, written = .ok (some literal)) ↔
        ∃ chosen, (chosen ≠ [] ∧ ∀ member ∈ chosen, member ∈ e.members) ∧ bits chosen = value) ∧
      (value ≠ 0 →
        (∀ literal, written = .ok (some literal) →
          ∃ named : List Member, named.Sublist e.members ∧
            (∀ member, member ∈ named ↔
              member ∈ e.members ∧ member.value ≠ 0 ∧ Within member.value value) ∧
            literal = ",".intercalate (named.map Member.name)) ∧
        ∀ reason, written = .error reason →
          ∃ rest, reason = .uncoveredBits e.name rest ∧
            ∀ position, HasBit rest position ↔
              HasBit value position ∧ ∀ member ∈ e.members, member.value ≠ 0 →
                Within member.value value → ¬ HasBit member.value position)) ∧
    (e.isFlags = false →
      ((∃ literal, written = .ok (some literal)) ↔
        ∃ member ∈ e.members, member.value = value)) ∧
    (e.isFlags = false ∨ value = 0 →
      (∀ member, IsFirst (fun other => other.value = value) e.members member →
        written = .ok (some member.name)) ∧
      ((∀ member ∈ e.members, member.value ≠ value) →
        written = .error (.unknownValue e.name value.toInt))) := by
  intro written
  have answer : written = (e.writeValue value).map some := write_int64 e facets value
  have spells (literal : String) :
      written = .ok (some literal) ↔ e.writeValue value = .ok literal := by
    simp only [answer, map_eq_ok_iff, Option.some.injEq, exists_eq_right]
  have fails (reason : ConversionError) :
      written = .error reason ↔ e.writeValue value = .error reason := by
    rw [answer, map_eq_error_iff]
  simp only [spells, fails, exists_writeValue_iff]
  refine ⟨fun flags => ⟨?_, fun nonzero => ⟨?_, ?_⟩⟩, exists_selects_iff_of_plain,
    fun single => ⟨?_, ?_⟩⟩
  · simp only [selects_iff_of_flags flags]
  · intro literal
    exact named_of_writeValue flags nonzero
  · intro reason
    exact uncovered_of_writeValue flags nonzero
  · intro member
    exact writeValue_of_isFirst single
  · exact writeValue_of_undeclared single

/-- Of the value six one bit is that of a member and the other one is left over; the value zero has
a member of its own. -/
theorem written_exactly_sample :
    sampleFlags.isFlags = true ∧
      (∃ rest, (ScalarType.enumeration sampleFlags).write .empty
          (some (.integer .int64 (.ofInt64 6))) = .error (.uncoveredBits sampleFlags.name rest) ∧
        HasBit rest 1 ∧ ¬ HasBit rest 2) ∧
      (ScalarType.enumeration sampleFlags).write .empty (some (.integer .int64 (.ofInt64 0))) =
        .ok (some "None") := by
  refine ⟨rfl, ?_, ?_⟩
  · obtain ⟨reason, failed⟩ : ∃ reason, (ScalarType.enumeration sampleFlags).write .empty
        (some (.integer .int64 (.ofInt64 6))) = .error reason := ⟨_, rfl⟩
    obtain ⟨flags, -⟩ := written_exactly sampleFlags .empty 6
    obtain ⟨rest, rfl, bitwise⟩ := ((flags rfl).2 (by decide)).2 reason failed
    refine ⟨rest, failed, (bitwise 1).2 ⟨rfl, ?_⟩, ?_⟩
    · unfold Within HasBit
      decide
    · intro set
      have apart := ((bitwise 2).1 set).2 ⟨"1", 4⟩ (by decide) (by decide) rfl
      exact apart rfl
  · obtain ⟨-, -, single⟩ := written_exactly sampleFlags .empty 0
    apply (single (.inr rfl)).1 ⟨"None", 0⟩
    exact ⟨[], _, rfl, rfl, by simp⟩

end EntityModel.Enumeration
