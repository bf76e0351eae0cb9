import EntityModel.Proofs.Enumeration.RoundTrip

/-!
Host types for the values of literals. The bits of any members together make a number of the
underlying width again, so the host type of an enumeration takes every value that a literal can
have; another integer type takes the values that fit it.
-/

set_option autoImplicit false

namespace EntityModel

namespace IntegerWidth

variable {width : IntegerWidth} {first second value : Int64} {n : Int}

/-- The number of binary digits of the greatest number of a width. -/
def digitCount : IntegerWidth → Nat
  | byte => 8
  | sbyte => 7
  | int16 => 15
  | int32 => 31
  | int64 => 63

theorem contains_zero (width : IntegerWidth) : width.Contains 0 := by
  cases width <;> decide

/-- Beyond its digits a number of a width has nothing but its sign. -/
theorem contains_iff_shift :
    width.Contains n ↔
      n >>> width.digitCount = 0 ∨ width.least < 0 ∧ n >>> width.digitCount = -1 := by
  rw [Int.shiftRight_eq_div_pow]
  cases width <;> simp only [Contains, least, greatest, digitCount] <;> omega

theorem contains_toInt_iff :
    width.Contains value.toInt ↔ value.toBitVec.sshiftRight width.digitCount = 0#64 ∨
      width.least < 0 ∧ value.toBitVec.sshiftRight width.digitCount = BitVec.allOnes 64 := by
  have sign : (BitVec.allOnes 64).toInt = -1 := by decide
  rw [contains_iff_shift, ← BitVec.toInt_inj, ← BitVec.toInt_inj, BitVec.toInt_sshiftRight, sign]
  rfl

/-- The sign of a combination is put together from the signs, so the digits stay the same. -/
theorem contains_or (one : width.Contains first.toInt) (other : width.Contains second.toInt) :
    width.Contains (first ||| second).toInt := by
  rw [contains_toInt_iff] at one other ⊢
  rw [Int64.toBitVec_or, BitVec.sshiftRight_or_distrib]
  rcases one with one | ⟨signed, one⟩
  · rw [one, BitVec.zero_or]
    exact other
  · rw [one, BitVec.allOnes_or]
    exact .inr ⟨signed, rfl⟩

end IntegerWidth

namespace Enumeration

variable {e : Enumeration} {facets : Facets} {literal : String} {value : Int64}
  {members : List Member} {target : HostType}

section Range

/-- The bits of any members together are a number of the underlying width. -/
theorem contains_bits (declared : ∀ member ∈ members, member ∈ e.members) :
    e.underlying.Contains (bits members).toInt := by
  induction members with
  | nil => exact e.underlying.contains_zero
  | cons member rest ih =>
    obtain ⟨first, others⟩ := List.forall_mem_cons.1 declared
    exact IntegerWidth.contains_or (e.inRange member first) (ih others)

end Range

section Hosting

theorem hostValue_eq_ok_iff {held : Value} :
    e.hostValue value target = .ok held ↔
      ∃ width, ∃ fits : width.Contains value.toInt,
        target = .integer width ∧ held = .integer width ⟨value.toInt, fits⟩ := by
  cases target with
  | integer width =>
    by_cases fits : width.Contains value.toInt
    · simp [hostValue, HostType.isInteger, Value.ofInt?, SizedInt.ofInt?, fits, eq_comm]
    · simp [hostValue, HostType.isInteger, Value.ofInt?, SizedInt.ofInt?, fits]
  | _ => simp [hostValue, HostType.isInteger]

/-- A value does not fit exactly if an integer type is asked for that does not contain it. -/
theorem hostValue_eq_doesNotFit_iff {type : QualifiedName} {text : String} {host : HostType} :
    e.hostValue value target = .error (.doesNotFit type text host) ↔
      type = e.name ∧ text = String.ofList (Text.integer value.toInt) ∧ host = target ∧
        ∃ width, target = .integer width ∧ ¬ width.Contains value.toInt := by
  cases target with
  | integer width =>
    by_cases fits : width.Contains value.toInt
    · simp [hostValue, HostType.isInteger, Value.ofInt?, SizedInt.ofInt?, fits]
    · simp [hostValue, HostType.isInteger, Value.ofInt?, SizedInt.ofInt?, fits, eq_comm]
  | _ => simp [hostValue, HostType.isInteger]

theorem validates_iff_parse :
    (ScalarType.enumeration e).validates facets (some literal) = true ↔
      ∃ value, e.parse literal = .ok value := by
  simp only [ScalarType.validates, validates]
  cases e.parse literal <;> simp

theorem read_of_parse (parsed : e.parse literal = .ok value) :
    (ScalarType.enumeration e).read facets target (some literal) =
      (e.hostValue value target).map some := by
  simp only [ScalarType.read, read, parsed]

end Hosting

/-- A valid literal always has a value in the host type of its enumeration. The value is that of the
members for which its tokens stand, and the bits of any members stay within the underlying width. In
another host type the value is the same number, if it is an integer type that contains the number;
nothing but an integer type that the caller has chosen is refused because the value does not fit. -/
theorem own_host_suffices (e : Enumeration) (facets : Facets) :
    let type := ScalarType.enumeration e
    (∀ chosen : List Member, (∀ member ∈ chosen, member ∈ e.members) →
      e.underlying.Contains (bits chosen).toInt) ∧
    (∀ literal, type.validates facets (some literal) = true →
      ∃ n : SizedInt e.underlying,
        type.read facets type.hostType (some literal) = .ok (some (.integer e.underlying n)) ∧
        (∃ chosen, (tokens literal).map e.tokenValue? = chosen.map (some ∘ Member.value) ∧
          e.Selects chosen ∧ (bits chosen).toInt = n.val) ∧
        ∀ target,
          (∀ held, type.read facets target (some literal) = .ok (some held) ↔
            ∃ width, ∃ fits : width.Contains n.val,
              target = .integer width ∧ held = .integer width ⟨n.val, fits⟩) ∧
          ((∃ text, type.read facets target (some literal) =
              .error (.doesNotFit e.name text target)) ↔
            ∃ width, target = .integer width ∧ ¬ width.Contains n.val)) ∧
    ∀ literal target name text host,
      type.read facets target (some literal) = .error (.doesNotFit name text host) →
      type.validates facets (some literal) = true ∧ name = e.name ∧ host = target ∧
        ∃ width, target = .integer width ∧ width ≠ e.underlying := by
  intro type
  have hosted {literal : String} {value : Int64} (parsed : e.parse literal = .ok value)
      (target : HostType) : type.read facets target (some literal) =
        (e.hostValue value target).map some := read_of_parse parsed
  refine ⟨fun chosen => contains_bits, fun literal valid => ?_, ?_⟩
  · obtain ⟨value, parsed⟩ := validates_iff_parse.1 valid
    obtain ⟨chosen, values, selects, rfl⟩ := selects_of_parse parsed
    have within := contains_bits selects.declared
    refine ⟨⟨(bits chosen).toInt, within⟩, ?_, ⟨chosen, values, selects, rfl⟩, fun target => ?_⟩
    · rw [hosted parsed, map_eq_ok_iff]
      exact ⟨_, hostValue_eq_ok_iff.2 ⟨e.underlying, within, rfl, rfl⟩, rfl⟩
    · simp only [hosted parsed, map_eq_ok_iff, map_eq_error_iff, Option.some.injEq, exists_eq_right,
        hostValue_eq_ok_iff, hostValue_eq_doesNotFit_iff, true_and, exists_eq_left, implies_true]
  · intro literal target name text host failed
    cases outcome : e.parse literal with
    | error reason =>
      -- Of a literal that is not valid the content is refused.
      have content := parse_error outcome
      simp only [type, ScalarType.read, read, outcome] at failed
      cases map_eq_error_iff.1 failed
      cases content
    | ok value =>
      obtain ⟨chosen, selects, rfl⟩ := parse_eq_ok outcome
      rw [hosted outcome, map_eq_error_iff, hostValue_eq_doesNotFit_iff] at failed
      obtain ⟨rfl, -, rfl, width, asked, misfit⟩ := failed
      refine ⟨validates_iff_parse.2 ⟨_, outcome⟩, rfl, rfl, width, asked, ?_⟩
      rintro rfl
      exact misfit (contains_bits selects.declared)

/-- A combination with the sign bit fits the 16 bits of its enumeration, but not 8 bits. -/
theorem own_host_suffices_sample :
    (ScalarType.enumeration sampleFlags).validates .empty (some "Read,Sign") = true ∧
      (∃ n : SizedInt .int16, (ScalarType.enumeration sampleFlags).read .empty (.integer .int16)
        (some "Read,Sign") = .ok (some (.integer .int16 n)) ∧ n.val = -32767) ∧
      ∃ text, (ScalarType.enumeration sampleFlags).read .empty (.integer .sbyte)
        (some "Read,Sign") = .error (.doesNotFit sampleFlags.name text (.integer .sbyte)) := by
  have valid : (ScalarType.enumeration sampleFlags).validates .empty (some "Read,Sign") = true := by
    rfl
  obtain ⟨n, own, -, others⟩ := (own_host_suffices sampleFlags .empty).2.1 _ valid
  have value : n.val = -32767 := by
    have read : (ScalarType.enumeration sampleFlags).read .empty (.integer .int16)
        (some "Read,Sign") = .ok (some (.integer .int16 ⟨-32767, by decide⟩)) := by rfl
    cases own.symm.trans read
    rfl
  refine ⟨valid, ⟨n, own, value⟩, (others (.integer .sbyte)).2.2 ⟨.sbyte, rfl, ?_⟩⟩
  rw [value]
  decide

end Enumeration

end EntityModel
