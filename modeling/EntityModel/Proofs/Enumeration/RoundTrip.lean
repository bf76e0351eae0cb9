import EntityModel.Literal.Scalar
import EntityModel.Proofs.Enumeration.Bits
import EntityModel.Proofs.Literal.Agreement
import EntityModel.Proofs.Lookup

/-!
Literals of enumerations and values. Reading a literal picks members of the enumeration, and so does
writing a value; what was picked on one way can be written or read on the other. Names of members
are not checked when an enumeration is built, so a name can be written that is no token, and then
the literal is not read.
-/

set_option autoImplicit false

namespace EntityModel

theorem IntegerWidth.contains_int64 (value : Int64) : int64.Contains value.toInt :=
  ⟨value.le_toInt, Int.le_sub_one_of_lt value.toInt_lt⟩

/-- A 64-bit value as an integer of that width. -/
def SizedInt.ofInt64 (value : Int64) : SizedInt .int64 :=
  ⟨value.toInt, IntegerWidth.contains_int64 value⟩

theorem SizedInt.ofInt64_ofInt (n : SizedInt .int64) : ofInt64 (.ofInt n.val) = n := by
  obtain ⟨val, least_le, le_greatest⟩ := n
  have same : (Int64.ofInt val).toInt = val :=
    Int64.toInt_ofInt_of_le least_le (Int.lt_of_le_sub_one le_greatest)
  simp only [ofInt64, same]

namespace Enumeration

/-- A text that can stand between commas as one token. -/
def IsToken (text : String) : Prop := text ≠ "" ∧ ',' ∉ text.toList

/-- Members that one literal may name: declared ones, and only for flags more than one. -/
structure Selects (e : Enumeration) (chosen : List Member) : Prop where
  nonempty : chosen ≠ []
  declared : ∀ member ∈ chosen, member ∈ e.members
  single : e.isFlags = false → chosen.length = 1

variable {e : Enumeration} {value : Int64} {literal : String} {chosen : List Member}

section Tokens

theorem tokens_intercalate {names : List String} (nonempty : names ≠ [])
    (clean : ∀ name ∈ names, IsToken name) : tokens (",".intercalate names) = names := by
  have apart : ∀ text ∈ names.map String.toList, ',' ∉ text := by
    intro text mem
    obtain ⟨name, named, rfl⟩ := List.mem_map.1 mem
    exact (clean name named).2
  have filled : names.map String.toList ≠ [] := mt List.map_eq_nil_iff.1 nonempty
  have comma : ",".toList = [','] := rfl
  rw [tokens, String.toList_intercalate, comma, List.splitOn_intercalate ',' apart filled,
    List.map_map]
  simp

theorem one_lt_length_tokens (comma : ',' ∈ literal.toList) : 1 < (tokens literal).length := by
  obtain ⟨before, after, split⟩ := List.append_of_mem comma
  have first := List.length_pos_iff.2 (List.splitOn_ne_nil ',' before)
  have last := List.length_pos_iff.2 (List.splitOn_ne_nil ',' after)
  rw [tokens, split, List.splitOn_append_cons_self, List.length_map, List.length_append]
  omega

end Tokens

section Reading

theorem tokenValue?_eq_some {token : String} (found : e.tokenValue? token = some value) :
    ∃ member ∈ e.members, member.value = value := by
  unfold tokenValue? at found
  split at found
  · next member named =>
    cases found
    exact ⟨member, List.mem_of_find?_eq_some named, rfl⟩
  · obtain ⟨n, -, numbered⟩ := Option.bind_eq_some_iff.1 found
    obtain ⟨member, sought, rfl⟩ := Option.map_eq_some_iff.1 numbered
    exact ⟨member, List.mem_of_find?_eq_some sought, rfl⟩

/-- A name counts before a number, and no two members have one name. -/
theorem tokenValue?_name {member : Member} (declared : member ∈ e.members) :
    e.tokenValue? member.name = some member.value := by
  have named : e.member? member.name = some member :=
    (find?_key_eq_some_iff e.distinct).2 ⟨declared, rfl⟩
  rw [tokenValue?, named]

/-- Every token that is combined stands for a member. -/
theorem combine_eq_ok {tokens : List String} (read : e.combine tokens = .ok value) :
    ∃ chosen : List Member, tokens.map e.tokenValue? = chosen.map (some ∘ Member.value) ∧
      (∀ member ∈ chosen, member ∈ e.members) ∧ bits chosen = value := by
  induction tokens generalizing value with
  | nil =>
    cases read
    exact ⟨[], rfl, by simp, rfl⟩
  | cons token rest ih =>
    rw [combine] at read
    split at read
    · cases read
    next first found =>
    obtain ⟨others, combined, rfl⟩ := map_eq_ok_iff.1 read
    obtain ⟨member, declared, rfl⟩ := tokenValue?_eq_some found
    obtain ⟨chosen, values, all, rfl⟩ := ih combined
    refine ⟨member :: chosen, ?_, List.forall_mem_cons.2 ⟨declared, all⟩, rfl⟩
    rw [List.map_cons, List.map_cons, found, values]
    rfl

theorem combine_names (declared : ∀ member ∈ chosen, member ∈ e.members) :
    e.combine (chosen.map Member.name) = .ok (bits chosen) := by
  induction chosen with
  | nil => rfl
  | cons member rest ih =>
    obtain ⟨first, others⟩ := List.forall_mem_cons.1 declared
    simp only [List.map_cons, combine, tokenValue?_name first, ih others, Except.map]
    rfl

/-- The tokens of a literal that is read pick members, and the value is that of their bits. -/
theorem selects_of_parse (read : e.parse literal = .ok value) :
    ∃ chosen, (tokens literal).map e.tokenValue? = chosen.map (some ∘ Member.value) ∧
      e.Selects chosen ∧ bits chosen = value := by
  unfold parse at read
  dsimp only at read
  split at read
  · cases read
  split at read
  · cases read
  next few =>
  obtain ⟨chosen, values, declared, rfl⟩ := combine_eq_ok read
  have length : (tokens literal).length = chosen.length := by
    simpa using congrArg List.length values
  have filled : 0 < (tokens literal).length := by
    rw [tokens, List.length_map]
    exact List.length_pos_iff.2 (List.splitOn_ne_nil _ _)
  refine ⟨chosen, values, ⟨List.length_pos_iff.1 (length ▸ filled), declared, fun plain => ?_⟩, rfl⟩
  simp only [plain, Bool.false_eq_true, not_false_eq_true, true_and] at few
  omega

theorem parse_eq_ok (read : e.parse literal = .ok value) :
    ∃ chosen, e.Selects chosen ∧ bits chosen = value := by
  obtain ⟨chosen, -, selects, combined⟩ := selects_of_parse read
  exact ⟨chosen, selects, combined⟩

/-- The names of picked members are read if they are tokens. -/
theorem parse_names (selects : e.Selects chosen) (clean : ∀ member ∈ chosen, IsToken member.name) :
    e.parse (",".intercalate (chosen.map Member.name)) = .ok (bits chosen) := by
  have named : ∀ name ∈ chosen.map Member.name, IsToken name := List.forall_mem_map.2 clean
  have nonempty : chosen.map Member.name ≠ [] := mt List.map_eq_nil_iff.1 selects.nonempty
  have noneEmpty : (chosen.map Member.name).any (·.isEmpty) = false := by
    rw [List.any_eq_false]
    intro name mem
    simpa using (named name mem).1
  have few : ¬ (¬ e.isFlags ∧ 1 < (chosen.map Member.name).length) := by
    rintro ⟨plain, several⟩
    rw [List.length_map, selects.single (by simpa using plain)] at several
    exact absurd several (by decide)
  unfold parse
  simp only [tokens_intercalate nonempty named, noneEmpty, Bool.false_eq_true, if_false, few,
    combine_names selects.declared]

theorem parse_of_not_isToken (plain : e.isFlags = false) (unclean : ¬ IsToken literal) :
    ∃ reason, e.parse literal = .error reason := by
  unfold parse
  by_cases comma : ',' ∈ literal.toList
  · have several := one_lt_length_tokens comma
    simp only [plain, several]
    split <;> exact ⟨_, rfl⟩
  · have empty : literal = "" := Classical.byContradiction fun filled => unclean ⟨filled, comma⟩
    subst empty
    exact ⟨_, rfl⟩

end Reading

section Writing

/-- Writing a value picks members with its bits and names them. -/
theorem writeValue_eq_ok (written : e.writeValue value = .ok literal) :
    ∃ chosen, e.Selects chosen ∧ bits chosen = value ∧
      ",".intercalate (chosen.map Member.name) = literal := by
  unfold writeValue at written
  split at written
  · split at written
    · next member found =>
      cases written
      have same : member.value = value := by simpa using List.find?_some found
      refine ⟨[member], ⟨by simp, ?_, fun _ => rfl⟩, ?_, ?_⟩
      · simpa using List.mem_of_find?_eq_some found
      · simpa [bits] using same
      · simp
    · cases written
  · next several =>
    obtain ⟨flags, nonzero⟩ := not_or.1 several
    dsimp only at written
    split at written
    · cases written
    next covered =>
    cases written
    have within : Within value (bits (e.contained value)) :=
      and_not_eq_zero_iff.1 (Classical.not_not.1 covered)
    have combined := (bits_contained_within e value).antisymm within
    refine ⟨e.contained value, ⟨?_, fun _ mem => (mem_contained_iff.1 mem).1, ?_⟩, combined, rfl⟩
    · intro none
      rw [none] at combined
      exact nonzero combined.symm
    · intro plain
      exact absurd plain (by simpa using flags)

/-- The value of any members that are picked can be written. -/
theorem exists_writeValue (selects : e.Selects chosen) :
    ∃ literal, e.writeValue (bits chosen) = .ok literal := by
  unfold writeValue
  by_cases simple : ¬ e.isFlags ∨ bits chosen = 0
  · -- A value without bits is that of each member, and a single member has its own value.
    have ⟨member, mem, same⟩ : ∃ member ∈ e.members, member.value = bits chosen := by
      cases chosen with
      | nil => exact absurd rfl selects.nonempty
      | cons first rest =>
        refine ⟨first, selects.declared first List.mem_cons_self, ?_⟩
        rcases simple with plain | zero
        · have single := selects.single (by simpa using plain)
          have alone : rest = [] := by simpa using single
          simp [alone, bits]
        · rw [zero]
          exact bits_eq_zero_iff.1 zero first List.mem_cons_self
    rw [if_pos simple]
    cases found : e.members.find? (·.value == bits chosen) with
    | some other => exact ⟨other.name, rfl⟩
    | none => exact absurd same (by simpa using List.find?_eq_none.1 found member mem)
  · rw [if_neg simple]
    simp [bits_contained_bits selects.declared]

end Writing

section Hosting

theorem read_int64 (e : Enumeration) (literal : String) :
    (ScalarType.enumeration e).read .empty (.integer .int64) (some literal) =
      (e.parse literal).map fun value => some (.integer .int64 (.ofInt64 value)) := by
  simp only [ScalarType.read, read]
  cases e.parse literal with
  | error reason => rfl
  | ok value =>
    simp only [hostValue, HostType.isInteger, not_true_eq_false, if_false, Value.ofInt?,
      SizedInt.ofInt?, IntegerWidth.contains_int64, dif_pos, Option.map_some]
    rfl

theorem read_int64_eq_ok_iff {n : SizedInt .int64} :
    (ScalarType.enumeration e).read .empty (.integer .int64) (some literal) =
        .ok (some (.integer .int64 n)) ↔ e.parse literal = .ok (.ofInt n.val) := by
  rw [read_int64]
  constructor
  · intro read
    obtain ⟨value, parsed, same⟩ := map_eq_ok_iff.1 read
    cases same
    rw [parsed, SizedInt.ofInt64, Int64.ofInt_toInt]
  · intro parsed
    rw [parsed, Except.map, SizedInt.ofInt64_ofInt]

theorem write_int64_eq_ok_iff {facets : Facets} {n : SizedInt .int64} :
    (ScalarType.enumeration e).write facets (some (.integer .int64 n)) = .ok (some literal) ↔
      e.writeValue (.ofInt n.val) = .ok literal := by
  constructor
  · intro written
    obtain ⟨_, spelled, same⟩ := map_eq_ok_iff.1 written
    rwa [Option.some.inj same] at spelled
  · intro spelled
    exact map_eq_ok_iff.2 ⟨literal, spelled, rfl⟩

end Hosting

/-- Without flags a literal that is written is one name, which is read back if it is a token. -/
theorem parse_of_writeValue (plain : e.isFlags = false) (token : IsToken literal)
    (written : e.writeValue value = .ok literal) : e.parse literal = .ok value := by
  obtain ⟨chosen, selects, rfl, rfl⟩ := writeValue_eq_ok written
  obtain ⟨member, rfl⟩ := List.length_eq_one_iff.1 (selects.single plain)
  refine parse_names selects fun other mem => ?_
  rw [List.mem_singleton.1 mem]
  simpa using token

/-- The value of a literal can be written. Where all names are tokens, each literal that is written
is read as the value it was written for; without flags this depends on the one name alone that was
written, and a name that is no token is refused. -/
theorem literals_round_trip (e : Enumeration) (facets : Facets) :
    (∀ literal value,
      (ScalarType.enumeration e).read .empty (.integer .int64) (some literal) = .ok (some value) →
      ∃ again, (ScalarType.enumeration e).write facets (some value) = .ok (some again)) ∧
    ((∀ member ∈ e.members, IsToken member.name) → ∀ n literal,
      (ScalarType.enumeration e).write facets (some (.integer .int64 n)) = .ok (some literal) →
      (ScalarType.enumeration e).read .empty (.integer .int64) (some literal) =
        .ok (some (.integer .int64 n))) ∧
    (e.isFlags = false → ∀ n literal,
      (ScalarType.enumeration e).write facets (some (.integer .int64 n)) = .ok (some literal) →
      ((ScalarType.enumeration e).read .empty (.integer .int64) (some literal) =
        .ok (some (.integer .int64 n)) ↔ IsToken literal) ∧
      (¬ IsToken literal → ∃ reason,
        (ScalarType.enumeration e).read .empty (.integer .int64) (some literal) = .error reason ∧
          reason.kind = .content)) := by
  refine ⟨?_, ?_, ?_⟩
  · intro literal value read
    rw [read_int64] at read
    obtain ⟨combined, parsed, same⟩ := map_eq_ok_iff.1 read
    cases same
    obtain ⟨chosen, selects, rfl⟩ := parse_eq_ok parsed
    obtain ⟨again, written⟩ := exists_writeValue selects
    refine ⟨again, write_int64_eq_ok_iff.2 ?_⟩
    rwa [SizedInt.ofInt64, Int64.ofInt_toInt]
  · intro clean n literal written
    obtain ⟨chosen, selects, combined, rfl⟩ := writeValue_eq_ok (write_int64_eq_ok_iff.1 written)
    rw [read_int64_eq_ok_iff, ← combined]
    exact parse_names selects fun member mem => clean member (selects.declared member mem)
  · intro plain n literal written
    have refused (unclean : ¬ IsToken literal) : ∃ reason,
        (ScalarType.enumeration e).read .empty (.integer .int64) (some literal) = .error reason ∧
          reason.kind = .content := by
      obtain ⟨reason, failed⟩ := parse_of_not_isToken plain unclean
      exact ⟨reason, by rw [read_int64, failed, Except.map], parse_error failed⟩
    refine ⟨⟨fun read => ?_, fun token => ?_⟩, refused⟩
    · refine Classical.byContradiction fun unclean => ?_
      obtain ⟨reason, failed, -⟩ := refused unclean
      rw [failed] at read
      cases read
    · rw [read_int64_eq_ok_iff]
      exact parse_of_writeValue plain token (write_int64_eq_ok_iff.1 written)

/-- Flags with two names for one bit, a name that looks like a number, and the sign bit. -/
def sampleFlags : Enumeration where
  name := ⟨"n", "Flags"⟩
  underlying := .int16
  isFlags := true
  members := [⟨"None", 0⟩, ⟨"Read", 1⟩, ⟨"1", 4⟩, ⟨"Again", 1⟩, ⟨"Sign", -32768⟩]
  inRange := by decide
  distinct := by decide

/-- Plain members, one of them with a comma in its name. -/
def sampleChoice : Enumeration where
  name := ⟨"n", "Choice"⟩
  underlying := .byte
  isFlags := false
  members := [⟨"Left", 1⟩, ⟨"Left,Right", 2⟩]
  inRange := by decide
  distinct := by decide

theorem literals_round_trip_sample :
    ((ScalarType.enumeration sampleFlags).write .empty
        (some (.integer .int64 ⟨-32763, by decide⟩)) = .ok (some "Read,1,Again,Sign") ∧
      (ScalarType.enumeration sampleFlags).read .empty (.integer .int64)
        (some "Read,1,Again,Sign") = .ok (some (.integer .int64 ⟨-32763, by decide⟩))) ∧
    ((ScalarType.enumeration sampleChoice).write .empty
        (some (.integer .int64 ⟨2, by decide⟩)) = .ok (some "Left,Right") ∧
      ∃ reason, (ScalarType.enumeration sampleChoice).read .empty (.integer .int64)
        (some "Left,Right") = .error reason ∧ reason.kind = .content) := by
  have combined : (ScalarType.enumeration sampleFlags).write .empty
      (some (.integer .int64 ⟨-32763, by decide⟩)) = .ok (some "Read,1,Again,Sign") := by rfl
  have single : (ScalarType.enumeration sampleChoice).write .empty
      (some (.integer .int64 ⟨2, by decide⟩)) = .ok (some "Left,Right") := by rfl
  have clean : ∀ member ∈ sampleFlags.members, IsToken member.name := by
    unfold IsToken
    decide
  have unclean : ¬ IsToken "Left,Right" := by
    unfold IsToken
    decide
  exact ⟨⟨combined, (literals_round_trip sampleFlags .empty).2.1 clean _ _ combined⟩,
    single, ((literals_round_trip sampleChoice .empty).2.2 rfl _ _ single).2 unclean⟩

end Enumeration

end EntityModel
