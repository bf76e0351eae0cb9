import EntityModel.Literal.Spelling
import Mathlib.Algebra.GroupWithZero.Nat
import Mathlib.Data.List.TakeWhile

/-!
Octets that are written, in base 64 or as an identifier, are read back. In base 64 they are read from
their symbols with any part of the padding, and from nothing else. A text in the form of an
identifier is one. Hexadecimal digits are read as the octets that they spell in pairs.
-/

set_option autoImplicit false

namespace EntityModel

namespace Octets.Base64

/-- The two alphabets that are read. -/
inductive Alphabet.IsKnown : Alphabet → Prop where
  | url : IsKnown .url
  | standard : IsKnown .standard

section Symbols

variable {alphabet : Alphabet} {c : Char} {n : Nat} {sextets : List Nat} {symbols : List Char}

theorem Alphabet.IsKnown.value?_symbol (known : alphabet.IsKnown) :
    ∀ n < 64, alphabet.value? (alphabet.symbol n) = some n := by
  cases known <;> decide

theorem Alphabet.IsKnown.symbol_ne_equals (known : alphabet.IsKnown) :
    ∀ n < 64, alphabet.symbol n ≠ '=' := by
  cases known <;> decide

/-- A character of a range is found again from its distance to the first one. -/
theorem ofNat_add_toNat_sub {first : Char} (le : first ≤ c) :
    Char.ofNat (first.toNat + (c.toNat - first.toNat)) = c := by
  have le' : first.toNat ≤ c.toNat := le
  rw [Nat.add_sub_cancel' le', Char.ofNat_toNat]

/-- A symbol is read as the one number of six bits that it is written for. -/
theorem symbol_of_value? (read : alphabet.value? c = some n) : n < 64 ∧ alphabet.symbol n = c := by
  have span {first last : Char} (range : first ≤ c ∧ c ≤ last) :
      c.toNat - first.toNat ≤ last.toNat - first.toNat := Nat.sub_le_sub_right range.2 _
  unfold Alphabet.value? at read
  unfold Alphabet.symbol
  split at read
  · next upper =>
    have small := span upper
    cases read
    simp only [Char.reduceToNat] at small
    rw [if_pos (by simp only [Char.reduceToNat]; omega)]
    exact ⟨by simp only [Char.reduceToNat]; omega, ofNat_add_toNat_sub upper.1⟩
  split at read
  · next lower =>
    have small := span lower
    cases read
    simp only [Char.reduceToNat] at small
    rw [if_neg (by omega), if_pos (by simp only [Char.reduceToNat]; omega), Nat.add_sub_cancel]
    exact ⟨by simp only [Char.reduceToNat]; omega, ofNat_add_toNat_sub lower.1⟩
  split at read
  · next digit =>
    have small := span digit
    cases read
    simp only [Char.reduceToNat] at small
    rw [if_neg (by omega), if_neg (by omega), if_pos (by simp only [Char.reduceToNat]; omega),
      Nat.add_sub_cancel]
    exact ⟨by simp only [Char.reduceToNat]; omega, ofNat_add_toNat_sub digit.1⟩
  split at read
  · next same =>
    cases read
    exact ⟨by decide, same.symm⟩
  · obtain ⟨same, found⟩ := Option.ite_none_right_eq_some.1 read
    cases found
    exact ⟨by decide, same.symm⟩

/-- Symbols are read exactly as the numbers of six bits that they are written for. -/
theorem Alphabet.IsKnown.mapM_value?_eq_some_iff (known : alphabet.IsKnown) :
    symbols.mapM alphabet.value? = some sextets ↔
      symbols = sextets.map alphabet.symbol ∧ ∀ n ∈ sextets, n < 64 := by
  induction symbols generalizing sextets with
  | nil => cases sextets <;> simp
  | cons c symbols ih =>
    rw [List.mapM_cons]
    cases sextets with
    | nil => simp [Option.bind_eq_some_iff]
    | cons n sextets =>
      simp only [Option.bind_eq_bind, Option.bind_eq_some_iff, ih, Option.pure_def,
        Option.some_inj, List.cons.injEq, List.map_cons, List.mem_cons, forall_eq_or_imp]
      constructor
      · rintro ⟨_, read, _, ⟨rest, small⟩, rfl, rfl⟩
        obtain ⟨n_lt, same⟩ := symbol_of_value? read
        exact ⟨⟨same.symm, rest⟩, n_lt, small⟩
      · rintro ⟨⟨rfl, rest⟩, n_lt, small⟩
        exact ⟨n, known.value?_symbol n n_lt, sextets, ⟨rest, small⟩, rfl, rfl⟩

end Symbols

section Groups

variable {sextets : List Nat} {octets : List UInt8}

theorem sextet_lt (octets : List UInt8) : ∀ n ∈ sextetsOfOctets octets, n < 64 := by
  fun_induction sextetsOfOctets octets with
  | case1 => simp
  | case2 x =>
    have := x.toNat_lt
    simp only [List.mem_cons, List.not_mem_nil, or_false, forall_eq_or_imp, forall_eq]
    omega
  | case3 x y =>
    have := x.toNat_lt
    have := y.toNat_lt
    simp only [List.mem_cons, List.not_mem_nil, or_false, forall_eq_or_imp, forall_eq]
    omega
  | case4 x y z rest ih =>
    have := x.toNat_lt
    have := y.toNat_lt
    have := z.toNat_lt
    simp only [List.mem_cons, forall_eq_or_imp]
    refine ⟨by omega, by omega, by omega, by omega, ih⟩

theorem octetsOfSextets?_sextetsOfOctets (octets : List UInt8) :
    octetsOfSextets? (sextetsOfOctets octets) = some octets := by
  fun_induction sextetsOfOctets octets with
  | case1 => rfl
  | case2 x =>
    have first : x.toNat / 4 * 4 + x.toNat % 4 * 16 / 16 = x.toNat := by omega
    rw [octetsOfSextets?, if_pos (by omega), first, UInt8.ofNat_toNat]
  | case3 x y =>
    have := y.toNat_lt
    have first : x.toNat / 4 * 4 + (x.toNat % 4 * 16 + y.toNat / 16) / 16 = x.toNat := by omega
    have second : (x.toNat % 4 * 16 + y.toNat / 16) % 16 * 16 + y.toNat % 16 * 4 / 4 = y.toNat := by
      omega
    rw [octetsOfSextets?, if_pos (by omega), first, second, UInt8.ofNat_toNat, UInt8.ofNat_toNat]
  | case4 x y z rest ih =>
    have := y.toNat_lt
    have := z.toNat_lt
    have first : x.toNat / 4 * 4 + (x.toNat % 4 * 16 + y.toNat / 16) / 16 = x.toNat := by omega
    have second : (x.toNat % 4 * 16 + y.toNat / 16) % 16 * 16 +
        (y.toNat % 16 * 4 + z.toNat / 64) / 4 = y.toNat := by omega
    have third : (y.toNat % 16 * 4 + z.toNat / 64) % 4 * 64 + z.toNat % 64 = z.toNat := by omega
    rw [octetsOfSextets?, ih, first, second, third]
    simp

theorem toNat_ofNat_octet {n : Nat} (small : n < 256) : (UInt8.ofNat n).toNat = n :=
  UInt8.toNat_ofNat_of_lt' small

/-- Numbers of six bits that make up octets are the ones into which the octets are cut. -/
theorem sextets_of_octets (small : ∀ n ∈ sextets, n < 64)
    (joined : octetsOfSextets? sextets = some octets) : sextets = sextetsOfOctets octets := by
  fun_induction octetsOfSextets? sextets generalizing octets with
  | case1 =>
    cases joined
    rfl
  | case2 | case4 | case6 => cases joined
  | case3 a b zero =>
    cases joined
    simp only [List.mem_cons, List.not_mem_nil, or_false, forall_eq_or_imp, forall_eq] at small
    have first : (a * 4 + b / 16) / 4 = a := by omega
    have second : (a * 4 + b / 16) % 4 * 16 = b := by omega
    rw [sextetsOfOctets, toNat_ofNat_octet (by omega), first, second]
  | case5 a b c zero =>
    cases joined
    simp only [List.mem_cons, List.not_mem_nil, or_false, forall_eq_or_imp, forall_eq] at small
    have first : (a * 4 + b / 16) / 4 = a := by omega
    have second : (a * 4 + b / 16) % 4 * 16 + (b % 16 * 16 + c / 4) / 16 = b := by omega
    have third : (b % 16 * 16 + c / 4) % 16 * 4 = c := by omega
    rw [sextetsOfOctets, toNat_ofNat_octet (by omega), toNat_ofNat_octet (by omega), first, second,
      third]
  | case7 a b c d rest ih =>
    obtain ⟨others, rest_joined, same⟩ := Option.bind_eq_some_iff.1 joined
    cases same
    simp only [List.mem_cons, forall_eq_or_imp] at small
    obtain ⟨a_lt, b_lt, c_lt, d_lt, small⟩ := small
    have first : (a * 4 + b / 16) / 4 = a := by omega
    have second : (a * 4 + b / 16) % 4 * 16 + (b % 16 * 16 + c / 4) / 16 = b := by omega
    have third : (b % 16 * 16 + c / 4) % 16 * 4 + (c % 4 * 64 + d) / 64 = c := by omega
    have fourth : (c % 4 * 64 + d) % 64 = d := by omega
    rw [sextetsOfOctets, toNat_ofNat_octet (by omega), toNat_ofNat_octet (by omega),
      toNat_ofNat_octet (by omega), first, second, third, fourth, ← ih small rest_joined]

end Groups

section Texts

variable {alphabet : Alphabet} {octets : List UInt8} {text : List Char}

theorem Alphabet.IsKnown.ne_equals_of_mem (known : alphabet.IsKnown) {c : Char}
    (mem : c ∈ encode alphabet octets) : c ≠ '=' := by
  obtain ⟨n, sextet, rfl⟩ := List.mem_map.1 mem
  exact known.symbol_ne_equals n (sextet_lt octets n sextet)

/-- The texts of octets in an alphabet are their symbols with any part of the padding. -/
theorem Alphabet.IsKnown.decode?_eq_some_iff (known : alphabet.IsKnown) :
    decode? alphabet text = some octets ↔
      ∃ count ≤ padding (encode alphabet octets).length,
        text = encode alphabet octets ++ List.replicate count '=' := by
  constructor
  · intro decoded
    obtain ⟨⟨short, equals⟩, decoded⟩ := Option.ite_none_right_eq_some.1 decoded
    obtain ⟨sextets, read, joined⟩ := Option.bind_eq_some_iff.1 decoded
    obtain ⟨symbols, small⟩ := known.mapM_value?_eq_some_iff.1 read
    rw [sextets_of_octets small joined] at symbols
    change text.takeWhile (· ≠ '=') = encode alphabet octets at symbols
    rw [symbols] at short
    have tail : text.dropWhile (· ≠ '=') =
        List.replicate (text.dropWhile (· ≠ '=')).length '=' :=
      List.eq_replicate_of_mem fun c mem => of_decide_eq_true (List.all_eq_true.1 equals c mem)
    refine ⟨_, short, ?_⟩
    rw [← tail, ← symbols, List.takeWhile_append_dropWhile]
  · rintro ⟨count, short, rfl⟩
    have plain : ∀ c ∈ encode alphabet octets, decide (c ≠ '=') = true :=
      fun _ mem => decide_eq_true (known.ne_equals_of_mem mem)
    have equals : (List.replicate count '=').takeWhile (· ≠ '=') = [] ∧
        (List.replicate count '=').dropWhile (· ≠ '=') = List.replicate count '=' := by
      cases count <;> simp [List.replicate_succ]
    have symbols : (encode alphabet octets ++ List.replicate count '=').takeWhile (· ≠ '=') =
        encode alphabet octets := by
      rw [List.takeWhile_append_of_pos plain, equals.1, List.append_nil]
    have tail : (encode alphabet octets ++ List.replicate count '=').dropWhile (· ≠ '=') =
        List.replicate count '=' := by
      rw [List.dropWhile_append_of_pos plain, equals.2]
    have read : (encode alphabet octets).mapM alphabet.value? = some (sextetsOfOctets octets) :=
      known.mapM_value?_eq_some_iff.2 ⟨rfl, sextet_lt octets⟩
    simp only [decode?, symbols, tail, read]
    rw [if_pos (by simpa using short)]
    exact octetsOfSextets?_sextetsOfOctets octets

theorem Alphabet.IsKnown.decode?_encode (known : alphabet.IsKnown) (octets : List UInt8) :
    decode? alphabet (encode alphabet octets) = some octets :=
  known.decode?_eq_some_iff.2 ⟨0, Nat.zero_le _, (List.append_nil _).symm⟩

end Texts

end Octets.Base64

theorem readOctets?_octetsLiteral (octets : List UInt8) :
    readOctets? (octetsLiteral octets) = some octets := by
  rw [readOctets?, octetsLiteral, Octets.Base64.Alphabet.IsKnown.url.decode?_encode, Option.some_or]

namespace Octets.Hex

theorem length_encode (octets : List UInt8) : (encode octets).length = 2 * octets.length := by
  induction octets with
  | nil => rfl
  | cons octet rest ih =>
    simp only [encode, List.flatMap_cons, List.length_append, List.length_cons] at ih ⊢
    simp only [List.length_nil, ih]
    omega

theorem isDigit_of_mem_encode {octets : List UInt8} {c : Char} (mem : c ∈ encode octets) :
    isDigit c = true := by
  have written : ∀ n < 16, isDigit (digit n) = true := by decide
  obtain ⟨octet, -, mem⟩ := List.mem_flatMap.1 mem
  have := octet.toNat_lt
  simp only [List.mem_cons, List.not_mem_nil, or_false] at mem
  rcases mem with rfl | rfl
  · exact written _ (by omega)
  · exact written _ (by omega)

theorem digitValue?_lt {c : Char} {n : Nat} (read : digitValue? c = some n) : n < 16 := by
  have upper {last : Char} (le : c ≤ last) : c.toNat ≤ last.toNat := le
  unfold digitValue? at read
  split at read
  · next digit =>
    cases read
    have le := (Char.isDigit_iff_toNat.1 digit).2
    simp only [Char.reduceToNat] at le ⊢
    omega
  · split at read
    · next letter =>
      cases read
      have le := upper letter.2
      simp only [Char.reduceToNat] at le ⊢
      omega
    · obtain ⟨letter, same⟩ := Option.ite_none_right_eq_some.1 read
      cases same
      have le := upper letter.2
      simp only [Char.reduceToNat] at le ⊢
      omega

/-- `Spells digits octets`: digits stand for octets in pairs, the higher digit first. -/
inductive Spells : List Char → List UInt8 → Prop where
  | nil : Spells [] []
  | cons {high low : Char} {rest : List Char} {a b : Nat} {octet : UInt8} {octets : List UInt8} :
      digitValue? high = some a → digitValue? low = some b → octet.toNat = 16 * a + b →
      Spells rest octets → Spells (high :: low :: rest) (octet :: octets)

theorem decode?_eq_some_iff {digits : List Char} {octets : List UInt8} :
    decode? digits = some octets ↔ Spells digits octets := by
  constructor
  · intro decoded
    fun_induction decode? digits generalizing octets with
    | case1 =>
      cases decoded
      exact .nil
    | case2 => cases decoded
    | case3 high low rest ih =>
      obtain ⟨a, high_read, decoded⟩ := Option.bind_eq_some_iff.1 decoded
      obtain ⟨b, low_read, decoded⟩ := Option.bind_eq_some_iff.1 decoded
      obtain ⟨octets, rest_read, same⟩ := Option.bind_eq_some_iff.1 decoded
      cases same
      have a_lt := digitValue?_lt high_read
      have b_lt := digitValue?_lt low_read
      refine .cons high_read low_read ?_ (ih rest_read)
      rw [UInt8.toNat_ofNat_of_lt' (by change _ < 256; omega), Nat.mul_comm]
  · intro spells
    induction spells with
    | nil => rfl
    | cons high_read low_read value _ ih =>
      simp only [decode?, high_read, low_read, ih, Option.bind_eq_bind, Option.bind_some,
        Option.pure_def, Option.some_inj, List.cons.injEq, and_true]
      rw [Nat.mul_comm, ← value, UInt8.ofNat_toNat]

/-- An even number of digits spells half as many octets. -/
theorem exists_decode? {count : Nat} {digits : List Char} (length : digits.length = 2 * count)
    (all : ∀ c ∈ digits, isDigit c = true) :
    ∃ octets, decode? digits = some octets ∧ octets.length = count := by
  induction count generalizing digits with
  | zero =>
    rw [List.eq_nil_of_length_eq_zero length]
    exact ⟨[], rfl, rfl⟩
  | succ count ih =>
    match digits, length with
    | high :: low :: rest, length =>
    simp only [List.mem_cons, forall_eq_or_imp] at all
    obtain ⟨highValue, high_read⟩ := Option.isSome_iff_exists.1 all.1
    obtain ⟨lowValue, low_read⟩ := Option.isSome_iff_exists.1 all.2.1
    have shorter : rest.length = 2 * count := by
      simp only [List.length_cons] at length
      omega
    obtain ⟨octets, rest_read, size⟩ := ih shorter all.2.2
    refine ⟨UInt8.ofNat (highValue * 16 + lowValue) :: octets, ?_, by simp [size]⟩
    simp only [decode?, high_read, low_read, rest_read, Option.bind_eq_bind, Option.bind_some,
      Option.pure_def]

end Octets.Hex

namespace Guid

open EntityModel.Octets

theorem mem_of_mem_cut {sizes : List Nat} {text part : List Char} {c : Char}
    (part_mem : part ∈ cut sizes text) (mem : c ∈ part) : c ∈ text := by
  induction sizes generalizing text with
  | nil => simp [cut] at part_mem
  | cons size sizes ih =>
    rcases List.mem_cons.1 part_mem with rfl | part_mem
    · exact List.mem_of_mem_take mem
    · exact List.mem_of_mem_drop (ih part_mem)

/-- A text that is as long as the pieces together is cut into pieces of these lengths. -/
theorem cut_of_length {sizes : List Nat} {text : List Char} (length : text.length = sizes.sum) :
    (cut sizes text).map List.length = sizes ∧ (cut sizes text).flatten = text := by
  induction sizes generalizing text with
  | nil => simpa [cut, eq_comm] using length
  | cons size sizes ih =>
    rw [List.sum_cons] at length
    have rest : (text.drop size).length = sizes.sum := by
      rw [List.length_drop]
      omega
    obtain ⟨lengths, whole⟩ := ih rest
    refine ⟨?_, ?_⟩
    · rw [cut, List.map_cons, lengths, List.length_take, Nat.min_eq_left (by omega)]
    · rw [cut, List.flatten_cons, whole, List.take_append_drop]

theorem splitOn_text (id : Guid) :
    id.text.splitOn '-' = cut groups (Hex.encode id.octets) := by
  refine List.splitOn_intercalate _ ?_ ?_
  · intro part part_mem mem
    exact absurd (Hex.isDigit_of_mem_encode (mem_of_mem_cut part_mem mem)) (by decide)
  · simp [groups, cut]

theorem cut_encode (id : Guid) :
    (cut groups (Hex.encode id.octets)).map List.length = groups ∧
      (cut groups (Hex.encode id.octets)).flatten = Hex.encode id.octets := by
  refine cut_of_length ?_
  rw [Hex.length_encode, id.length_eq]
  rfl

theorem hasForm_text (id : Guid) : hasForm id.text = true := by
  obtain ⟨lengths, whole⟩ := id.cut_encode
  simp only [hasForm, splitOn_text, lengths, whole, true_and, decide_eq_true_eq, List.all_eq_true]
  exact fun c mem => Hex.isDigit_of_mem_encode mem

theorem read?_text (id : Guid) : read? id.text = some id := by
  obtain ⟨lengths, whole⟩ := id.cut_encode
  simp only [read?, splitOn_text, lengths, whole, if_true, Hex.decode?_encode]
  simp [ofOctets?, id.length_eq]

/-- What has the form of an identifier is read. -/
theorem exists_read? {text : List Char} (formed : hasForm text = true) :
    ∃ id, read? text = some id := by
  simp only [hasForm, decide_eq_true_eq, List.all_eq_true] at formed
  obtain ⟨lengths, digits⟩ := formed
  have length : (text.splitOn '-').flatten.length = 2 * 16 := by
    rw [List.length_flatten, lengths]
    rfl
  obtain ⟨octets, decoded, size⟩ := Hex.exists_decode? length digits
  refine ⟨⟨octets, size⟩, ?_⟩
  simp only [read?, lengths, if_true, decoded, Option.bind_some, ofOctets?, size, dite_true]

end Guid

end EntityModel
