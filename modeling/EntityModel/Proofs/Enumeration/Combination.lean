import EntityModel.Proofs.Enumeration.RoundTrip
import EntityModel.Proofs.Number.Notation
import Mathlib.Tactic.MkIffOfInductiveProp

/-!
Literals of flags, token by token. Joining two literals with a comma joins their tokens, and the
value of some tokens is the least one that has all their bits; so it does not matter in which order
or how often the tokens are listed, nor whether a member is given by its name or by its number.
-/

set_option autoImplicit false

namespace EntityModel.Enumeration

open EntityModel.Text

variable {e : Enumeration} {value : Int64} {literal first second : String}
  {listed other : List String} {member : Member} {spelling : String}

section Tokens

/-- A comma ends the last token of one literal, and the first one of the other begins after it. -/
theorem tokens_append (first second : String) :
    tokens (first ++ "," ++ second) = tokens first ++ tokens second := by
  have comma : ",".toList = [','] := rfl
  simp only [tokens, String.toList_append, comma, List.append_assoc, List.singleton_append,
    List.splitOn_append_cons_self, List.map_append]

/-- A number that is no name counts as the member with this value. -/
theorem tokenValue?_number (declared : member ∈ e.members)
    (number : IntegerText member.value.toInt spelling.toList)
    (unnamed : ∀ other ∈ e.members, other.name ≠ spelling) :
    e.tokenValue? spelling = some member.value := by
  have noName : e.member? spelling = none := List.find?_eq_none.2 (by simpa using unnamed)
  have read : SizedInt.read? e.underlying spelling.toList =
      some ⟨member.value.toInt, e.inRange member declared⟩ :=
    SizedInt.read?_eq_some_iff.2 number
  rw [tokenValue?, noName, read]
  dsimp only [Option.bind_some]
  rw [Int64.ofInt_toInt]
  -- There may be an earlier member with the same value; it is this value that counts.
  cases found : e.members.find? (·.value == member.value) with
  | some same => simpa using List.find?_some found
  | none => simpa using List.find?_eq_none.1 found member declared

end Tokens

section Combining

/-- Tokens are combined by combining those in front with the others. -/
theorem combine_append (e : Enumeration) (listed other : List String) :
    e.combine (listed ++ other) =
      (e.combine listed).bind fun value => (e.combine other).map (value ||| ·) := by
  induction listed with
  | nil =>
    simp only [List.nil_append, combine, Except.bind, Int64.zero_or]
    cases e.combine other <;> rfl
  | cons token rest ih =>
    rw [List.cons_append, combine, combine]
    cases e.tokenValue? token with
    | none => rfl
    | some own =>
      dsimp only
      rw [ih]
      cases e.combine rest with
      | error reason => rfl
      | ok value => cases e.combine other <;> simp [Except.map, Except.bind, Int64.or_assoc]

/-- What a list of tokens says: each has a value, and together they have the bits of their value and
no others. -/
@[mk_iff]
structure AmountsTo (e : Enumeration) (listed : List String) (value : Int64) : Prop where
  known : ∀ token ∈ listed, ∃ own, e.tokenValue? token = some own
  within_iff : ∀ bound, Within value bound ↔
    ∀ token ∈ listed, ∀ own, e.tokenValue? token = some own → Within own bound

theorem AmountsTo.of_combine (combined : e.combine listed = .ok value) :
    e.AmountsTo listed value := by
  induction listed generalizing value with
  | nil =>
    cases combined
    exact ⟨by simp, fun bound => by simpa using zero_within bound⟩
  | cons token rest ih =>
    rw [combine] at combined
    cases found : e.tokenValue? token with
    | none =>
      rw [found] at combined
      cases combined
    | some own =>
      rw [found] at combined
      obtain ⟨others, read, rfl⟩ := map_eq_ok_iff.1 combined
      obtain ⟨known, within_iff⟩ := ih read
      refine ⟨List.forall_mem_cons.2 ⟨⟨own, found⟩, known⟩, fun bound => ?_⟩
      rw [or_within_iff, within_iff, List.forall_mem_cons]
      simp [found]

/-- Bits leave no choice: what a list says is one value. -/
theorem AmountsTo.unique {value' : Int64} (one : e.AmountsTo listed value)
    (same : e.AmountsTo listed value') : value = value' := by
  apply Within.antisymm
  · exact (one.within_iff value').2 ((same.within_iff value').1 (within_self value'))
  · exact (same.within_iff value).2 ((one.within_iff value).1 (within_self value))

theorem exists_combine (known : ∀ token ∈ listed, ∃ own, e.tokenValue? token = some own) :
    ∃ value, e.combine listed = .ok value := by
  induction listed with
  | nil => exact ⟨0, rfl⟩
  | cons token rest ih =>
    obtain ⟨⟨own, found⟩, others⟩ := List.forall_mem_cons.1 known
    obtain ⟨value, combined⟩ := ih others
    exact ⟨own ||| value, by simp [combine, found, combined, Except.map]⟩

theorem combine_eq_ok_iff : e.combine listed = .ok value ↔ e.AmountsTo listed value := by
  constructor
  · exact AmountsTo.of_combine
  · intro amount
    obtain ⟨found, combined⟩ := exists_combine amount.known
    rw [combined, amount.unique (AmountsTo.of_combine combined)]

/-- Lists with the same tokens say the same. -/
theorem AmountsTo.congr (same : ∀ token, token ∈ listed ↔ token ∈ other) :
    e.AmountsTo listed value ↔ e.AmountsTo other value := by
  simp only [amountsTo_iff, same]

/-- A token may be replaced by one with the same value. -/
theorem AmountsTo.replace {before after : List String} {token token' : String}
    (same : e.tokenValue? token = e.tokenValue? token') :
    e.AmountsTo (before ++ token :: after) value ↔
      e.AmountsTo (before ++ token' :: after) value := by
  simp only [amountsTo_iff, List.forall_mem_append, List.forall_mem_cons, same]

end Combining

section Literals

/-- Flags are read from any number of tokens, of which none is empty. -/
theorem parse_eq_ok_iff (flags : e.isFlags = true) :
    e.parse literal = .ok value ↔
      (∀ token ∈ tokens literal, token ≠ "") ∧ e.AmountsTo (tokens literal) value := by
  have filled : (∀ token ∈ tokens literal, token ≠ "") ↔ "" ∉ tokens literal := by
    exact List.forall_mem_ne'
  rw [← combine_eq_ok_iff, filled, parse]
  by_cases empty : "" ∈ tokens literal <;> simp [flags, empty]

/-- Two literals are read together exactly if each is, and their values are combined. -/
theorem parse_append_eq_ok_iff (flags : e.isFlags = true) :
    e.parse (first ++ "," ++ second) = .ok value ↔
      ∃ one two, e.parse first = .ok one ∧ e.parse second = .ok two ∧ one ||| two = value := by
  simp only [parse_eq_ok_iff flags, ← combine_eq_ok_iff, tokens_append, combine_append,
    List.forall_mem_append]
  cases e.combine (tokens first) with
  | error reason => simp [Except.bind]
  | ok one =>
    cases e.combine (tokens second) with
    | error reason => simp [Except.bind, Except.map]
    | ok two => simp [Except.bind, Except.map, and_assoc]

/-- A literal is read in 64 bits exactly if it is parsed, and the value is held as it is. -/
theorem read_int64_eq_some_iff {outcome : Option Value} :
    (ScalarType.enumeration e).read .empty (.integer .int64) (some literal) = .ok outcome ↔
      ∃ value, e.parse literal = .ok value ∧ some (.integer .int64 (.ofInt64 value)) = outcome := by
  rw [read_int64, map_eq_ok_iff]

end Literals

/-- Flags in one literal are read token by token. Two literals joined by a comma are read exactly if
each of them is, and their values are combined; so nothing depends on the order of the tokens or on
how often one is listed. The name of a member may be replaced by any spelling of its number that is
no name, for in a literal that is read no token is empty. -/
theorem flags_combine (e : Enumeration) (flags : e.isFlags = true) :
    let read (literal : String) :=
      (ScalarType.enumeration e).read .empty (.integer .int64) (some literal)
    let held (value : Int64) := some (Value.integer .int64 (.ofInt64 value))
    (∀ first second,
      ((∃ outcome, read (first ++ "," ++ second) = .ok outcome) ↔
        (∃ outcome, read first = .ok outcome) ∧ ∃ outcome, read second = .ok outcome) ∧
      ∀ outcome, read (first ++ "," ++ second) = .ok outcome →
        ∃ one two, read first = .ok (held one) ∧ read second = .ok (held two) ∧
          outcome = held (one ||| two)) ∧
    (∀ literal other, (∀ token, token ∈ tokens literal ↔ token ∈ tokens other) →
      ∀ outcome, read literal = .ok outcome ↔ read other = .ok outcome) ∧
    ∀ member ∈ e.members, ∀ spelling : String,
      IntegerText member.value.toInt spelling.toList →
      (∀ other ∈ e.members, other.name ≠ spelling) →
      ∀ literal other before after, tokens literal = before ++ member.name :: after →
        tokens other = before ++ spelling :: after →
        ∀ outcome, read literal = .ok outcome ↔ member.name ≠ "" ∧ read other = .ok outcome := by
  intro read held
  have reads (literal : String) (outcome : Option Value) : read literal = .ok outcome ↔
      ∃ value, e.parse literal = .ok value ∧ held value = outcome := read_int64_eq_some_iff
  refine ⟨fun first second => ⟨?_, ?_⟩, ?_, ?_⟩
  · simp only [reads, parse_append_eq_ok_iff flags]
    constructor
    · rintro ⟨_, _, ⟨one, two, parsed, parsed', rfl⟩, rfl⟩
      exact ⟨⟨_, one, parsed, rfl⟩, _, two, parsed', rfl⟩
    · rintro ⟨⟨_, one, parsed, rfl⟩, _, two, parsed', rfl⟩
      exact ⟨_, _, ⟨one, two, parsed, parsed', rfl⟩, rfl⟩
  · intro outcome joined
    obtain ⟨_, combined, rfl⟩ := (reads _ _).1 joined
    obtain ⟨one, two, parsed, parsed', rfl⟩ := (parse_append_eq_ok_iff flags).1 combined
    exact ⟨one, two, (reads _ _).2 ⟨one, parsed, rfl⟩, (reads _ _).2 ⟨two, parsed', rfl⟩, rfl⟩
  · intro literal other same outcome
    simp only [reads, parse_eq_ok_iff flags, same, AmountsTo.congr same]
  · intro member declared spelling number unnamed literal other before after split split' outcome
    have value : e.tokenValue? member.name = e.tokenValue? spelling := by
      rw [tokenValue?_name declared, tokenValue?_number declared number unnamed]
    have filled : spelling ≠ "" := by
      rintro rfl
      exact number.ne_nil rfl
    simp only [reads, parse_eq_ok_iff flags, split, split', AmountsTo.replace value,
      List.forall_mem_append, List.forall_mem_cons]
    constructor
    · rintro ⟨own, ⟨⟨front, named, back⟩, amount⟩, rfl⟩
      exact ⟨named, own, ⟨⟨front, filled, back⟩, amount⟩, rfl⟩
    · rintro ⟨named, own, ⟨⟨front, -, back⟩, amount⟩, rfl⟩
      exact ⟨own, ⟨⟨front, named, back⟩, amount⟩, rfl⟩

/-- The tokens of a literal in another order and with one of them twice, and with a number in place
of the name; the text `1` would not do, as it is the name of another member. -/
theorem flags_combine_sample :
    sampleFlags.isFlags = true ∧
      (ScalarType.enumeration sampleFlags).read .empty (.integer .int64) (some "Sign,Read,Sign") =
        .ok (some (.integer .int64 (.ofInt64 (-32767)))) ∧
      (ScalarType.enumeration sampleFlags).read .empty (.integer .int64) (some "+01,Sign") =
        .ok (some (.integer .int64 (.ofInt64 (-32767)))) := by
  obtain ⟨-, reorder, replace⟩ := flags_combine sampleFlags rfl
  have read : (ScalarType.enumeration sampleFlags).read .empty (.integer .int64)
      (some "Read,Sign") = .ok (some (.integer .int64 (.ofInt64 (-32767)))) := by rfl
  refine ⟨rfl, (reorder "Sign,Read,Sign" "Read,Sign" ?_ _).2 read, ?_⟩
  · intro token
    have listed : tokens "Sign,Read,Sign" = ["Sign", "Read", "Sign"] := by rfl
    have listed' : tokens "Read,Sign" = ["Read", "Sign"] := by rfl
    rw [listed, listed']
    simp only [List.mem_cons, List.not_mem_nil, or_false]
    tauto
  · have number : IntegerText 1 "+01".toList := readInteger?_eq_some_iff.1 rfl
    have replaced := replace ⟨"Read", 1⟩ (by decide) "+01" number (by decide) "Read,Sign" "+01,Sign"
      [] ["Sign"] rfl rfl
    exact ((replaced _).1 read).2

end EntityModel.Enumeration
