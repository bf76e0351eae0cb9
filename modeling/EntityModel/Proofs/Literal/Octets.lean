import EntityModel.Proofs.Literal.Facets
import Mathlib.Data.List.DropRight

/-!
Octets are read from every spelling in base 64 and written in one. The two alphabets are tried one
after the other on the whole text, and it makes no difference which of them reads it: two texts
stand for the same octets exactly if they differ in alphabet and padding alone.
-/

set_option autoImplicit false

namespace EntityModel

namespace Octets.Base64

variable {alphabet : Alphabet} {octets : List UInt8} {text : List Char}

/-- The symbol of the alphabet for URLs that stands for the same six bits. -/
def urlSymbol (c : Char) : Char := if c = '+' then '-' else if c = '/' then '_' else c

/-- A text with the symbols of the alphabet for URLs and without equals signs at its end. -/
def unified (text : List Char) : List Char := (text.rdropWhile (· == '=')).map urlSymbol

/-- A text has symbols of both alphabets that the other one does not have. -/
def IsMixed (text : List Char) : Prop :=
  ('-' ∈ text ∨ '_' ∈ text) ∧ ('+' ∈ text ∨ '/' ∈ text)

instance (text : List Char) : Decidable (IsMixed text) := by unfold IsMixed; infer_instance

theorem Alphabet.IsKnown.urlSymbol_symbol (known : alphabet.IsKnown) :
    ∀ n < 64, urlSymbol (alphabet.symbol n) = Alphabet.url.symbol n := by
  cases known <;> decide

theorem Alphabet.IsKnown.map_urlSymbol_encode (known : alphabet.IsKnown) (octets : List UInt8) :
    (encode alphabet octets).map urlSymbol = encode .url octets := by
  rw [encode, encode, List.map_map]
  exact List.map_congr_left fun n sextet => known.urlSymbol_symbol n (sextet_lt octets n sextet)

/-- Equals signs after symbols go, and nothing else. -/
theorem Alphabet.IsKnown.rdropWhile_encode (known : alphabet.IsKnown) (count : Nat) :
    (encode alphabet octets ++ List.replicate count '=').rdropWhile (· == '=') =
      encode alphabet octets := by
  induction count with
  | zero =>
    rw [List.replicate_zero, List.append_nil, List.rdropWhile_eq_self_iff]
    intro filled last
    exact known.ne_equals_of_mem (List.getLast_mem filled) (beq_iff_eq.1 last)
  | succ count ih =>
    rw [List.replicate_succ', ← List.append_assoc, List.rdropWhile_concat_pos _ _ _ rfl, ih]

theorem Alphabet.IsKnown.unified_encode (known : alphabet.IsKnown) (count : Nat) :
    unified (encode alphabet octets ++ List.replicate count '=') = encode .url octets := by
  rw [unified, known.rdropWhile_encode, known.map_urlSymbol_encode]

/-- The symbols that tell the alphabets apart come from one of them. -/
theorem Alphabet.IsKnown.not_isMixed (known : alphabet.IsKnown) (count : Nat) :
    ¬ IsMixed (encode alphabet octets ++ List.replicate count '=') := by
  have absent {c : Char} (equals : c ≠ '=') (other : ∀ n < 64, alphabet.symbol n ≠ c) :
      c ∉ encode alphabet octets ++ List.replicate count '=' := by
    rw [List.mem_append, List.mem_replicate]
    rintro (symbol | ⟨-, same⟩)
    · obtain ⟨n, sextet, same⟩ := List.mem_map.1 symbol
      exact other n (sextet_lt octets n sextet) same
    · exact equals same
  rintro ⟨url, standard⟩
  cases known with
  | url =>
    rcases standard with plus | slash
    · exact absent (by decide) (by decide) plus
    · exact absent (by decide) (by decide) slash
  | standard =>
    rcases url with minus | underscore
    · exact absent (by decide) (by decide) minus
    · exact absent (by decide) (by decide) underscore

theorem encode_url_inj {other : List UInt8} (same : encode .url octets = encode .url other) :
    octets = other := by
  have read := Alphabet.IsKnown.url.decode?_encode octets
  rw [same, Alphabet.IsKnown.url.decode?_encode] at read
  exact (Option.some.inj read).symm

/-- `IsTextOf octets text`: a text has the symbols of octets in one of the two alphabets, and any
part of their padding. -/
def IsTextOf (octets : List UInt8) (text : List Char) : Prop :=
  ∃ alphabet : Alphabet, alphabet.IsKnown ∧
    ∃ count ≤ padding (encode alphabet octets).length,
      text = encode alphabet octets ++ List.replicate count '='

theorem IsTextOf.unified_eq (written : IsTextOf octets text) :
    unified text = encode .url octets := by
  obtain ⟨alphabet, known, count, -, rfl⟩ := written
  exact known.unified_encode count

theorem IsTextOf.not_isMixed (written : IsTextOf octets text) : ¬ IsMixed text := by
  obtain ⟨alphabet, known, count, -, rfl⟩ := written
  exact known.not_isMixed count

/-- A text stands for the same octets in either alphabet. -/
theorem IsTextOf.unique {other : List UInt8} (one : IsTextOf octets text)
    (two : IsTextOf other text) : octets = other :=
  encode_url_inj (one.unified_eq.symm.trans two.unified_eq)

end Octets.Base64

open Octets.Base64

/-- Octets are read exactly from their texts, whichever alphabet is tried first. -/
theorem readOctets?_eq_some_iff {text : List Char} {octets : List UInt8} :
    readOctets? text = some octets ↔ IsTextOf octets text := by
  have decoded {alphabet : Alphabet} {octets : List UInt8} (known : alphabet.IsKnown)
      (read : decode? alphabet text = some octets) : IsTextOf octets text :=
    ⟨alphabet, known, known.decode?_eq_some_iff.1 read⟩
  rw [readOctets?, Option.or_eq_some_iff]
  constructor
  · rintro (url | ⟨-, standard⟩)
    · exact decoded .url url
    · exact decoded .standard standard
  · intro written
    cases url : decode? .url text with
    | some other => exact .inl (congrArg some ((decoded .url url).unique written))
    | none =>
      obtain ⟨alphabet, known, symbols⟩ := written
      have read := known.decode?_eq_some_iff.2 symbols
      cases known with
      | url => rw [url] at read; cases read
      | standard => exact .inr ⟨rfl, read⟩

namespace ScalarType

variable {literal : String} {octets : List UInt8}

theorem read_octets (spelled : PrimitiveKind.binary.spelling? literal = some octets) :
    (primitive .binary).read .empty .bytes (some literal) = .ok (some (.bytes octets)) :=
  read_empty spelled

/-- Octets have texts in two alphabets, with and without padding, and all of these are read. One
of them is written, in the alphabet for URLs and without padding, and every valid literal becomes
that one by exchange of the symbols in which the alphabets differ and without the padding. The
facets limit how many octets there are, not how they are spelled. -/
theorem octets_exactly :
    (∀ octets : List UInt8,
      (primitive .binary).write .empty (some (.bytes octets)) =
        .ok (some (String.ofList (encode .url octets))) ∧
      ∀ alphabet : Alphabet, alphabet.IsKnown →
        ∀ count ≤ padding (encode alphabet octets).length,
          (primitive .binary).read .empty .bytes
              (some (String.ofList (encode alphabet octets ++ List.replicate count '='))) =
            .ok (some (.bytes octets))) ∧
    (∀ literal : String, (primitive .binary).validates .empty (some literal) = true →
      ∃ octets : List UInt8,
        (primitive .binary).read .empty .bytes (some literal) = .ok (some (.bytes octets)) ∧
        ¬ IsMixed literal.toList ∧ unified literal.toList = encode .url octets ∧
        ∀ facets : Facets, (primitive .binary).validates facets (some literal) = true ↔
          ∀ most ∈ facets.maxLength, octets.length ≤ most) ∧
    ∀ one other : String, (primitive .binary).validates .empty (some one) = true →
      (primitive .binary).validates .empty (some other) = true →
      ((primitive .binary).read .empty .bytes (some one) =
          (primitive .binary).read .empty .bytes (some other) ↔
        unified one.toList = unified other.toList) := by
  have found {literal : String}
      (valid : (primitive .binary).validates .empty (some literal) = true) :
      ∃ octets, PrimitiveKind.binary.spelling? literal = some octets ∧
        IsTextOf octets literal.toList := by
    obtain ⟨octets, read⟩ := validates_empty_iff.1 valid
    exact ⟨octets, read, readOctets?_eq_some_iff.1 read⟩
  refine ⟨fun octets => ⟨rfl, ?_⟩, ?_, ?_⟩
  · intro alphabet known count short
    refine read_octets (readOctets?_eq_some_iff.2 ?_)
    rw [String.toList_ofList]
    exact ⟨alphabet, known, count, short, rfl⟩
  · intro literal valid
    obtain ⟨octets, read, written⟩ := found valid
    refine ⟨octets, read_octets read, written.not_isMixed, written.unified_eq, fun facets => ?_⟩
    rw [validates_iff_checkFacets read]
    exact checkLimit_eq_ok_iff
  · intro one other one_valid other_valid
    obtain ⟨octets, one_read, one_written⟩ := found one_valid
    obtain ⟨others, other_read, other_written⟩ := found other_valid
    rw [read_octets one_read, read_octets other_read, one_written.unified_eq,
      other_written.unified_eq]
    constructor
    · intro same
      cases same
      rfl
    · intro same
      rw [encode_url_inj same]

/-- The standard alphabet with padding and the alphabet for URLs without it. -/
theorem octets_exactly_sample :
    (primitive .binary).validates .empty (some "+/8=") = true ∧
    (primitive .binary).validates .empty (some "-_8") = true ∧
    (primitive .binary).read .empty .bytes (some "+/8=") =
      (primitive .binary).read .empty .bytes (some "-_8") ∧
    (primitive .binary).read .empty .bytes (some "+/8=") =
      .ok (some (.bytes [0xFB, 0xFF])) ∧
    ¬ IsMixed "+/8=".toList := by
  obtain ⟨texts, valid, alike⟩ := octets_exactly
  have one_valid : (primitive .binary).validates .empty (some "+/8=") = true := by rfl
  have other_valid : (primitive .binary).validates .empty (some "-_8") = true := by rfl
  obtain ⟨-, -, unmixed, -⟩ := valid "+/8=" one_valid
  exact ⟨one_valid, other_valid, (alike "+/8=" "-_8" one_valid other_valid).2 (by decide),
    (texts [0xFB, 0xFF]).2 .standard .standard 1 (by decide), unmixed⟩

end ScalarType

end EntityModel
