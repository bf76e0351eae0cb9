import EntityModel.Literal.Uri
import EntityModel.Proofs.Literal.RoundTrip

/-!
Literals of primitive kinds inside a URI stand for themselves: every text is put into a URI and
taken out again, and a URI literal that is accepted is the one that is written. Only octets have a
second form, with hexadecimal digits, which stands for the literal of the same octets.
-/

set_option autoImplicit false

namespace EntityModel

open EntityModel.Text

theorem undoubleQuotes?_eq_some_iff {body text : List Char} :
    undoubleQuotes? body = some text ↔ body = doubleQuotes text := by
  constructor
  · exact eq_doubleQuotes
  · rintro rfl
    exact undoubleQuotes?_doubleQuotes text

theorem hexBody?_eq_some_iff {text digits : List Char} :
    hexBody? text = some digits ↔
      text = ['X', '\''] ++ digits ++ ['\''] ∨ text = ['x', '\''] ++ digits ++ ['\''] := by
  rw [hexBody?, Option.or_eq_some_iff, enclosed?_eq_some_iff, enclosed?_eq_some_iff]
  constructor
  · rintro (upper | ⟨-, lower⟩)
    · exact .inl upper
    · exact .inr lower
  · rintro (upper | rfl)
    · exact .inl upper
    · exact .inr ⟨rfl, rfl⟩

/-- `IsHexForm text octets`: a text is the older form of a URI literal of octets. -/
def IsHexForm (text : List Char) (octets : List UInt8) : Prop :=
  ∃ digits, Octets.Hex.Spells digits octets ∧
    (text = ['X', '\''] ++ digits ++ ['\''] ∨ text = ['x', '\''] ++ digits ++ ['\''])

namespace PrimitiveKind

/-- Octets have two forms, and no text has both. -/
theorem ofUriText?_binary_eq_some_iff {text literal : List Char} :
    binary.ofUriText? text = some literal ↔
      text = binary.toUriText literal ∨
        ∃ octets, IsHexForm text octets ∧ literal = octetsLiteral octets := by
  constructor
  · intro read
    simp only [ofUriText?, uriOpening?, reduceCtorEq, if_false, if_true] at read
    split at read
    · next digits body =>
      obtain ⟨octets, decoded, rfl⟩ := Option.map_eq_some_iff.1 read
      have spelled := Octets.Hex.decode?_eq_some_iff.1 decoded
      exact .inr ⟨octets, ⟨digits, spelled, hexBody?_eq_some_iff.1 body⟩, rfl⟩
    · exact .inl (enclosed?_eq_some_iff.1 read)
  · rintro (rfl | ⟨octets, ⟨digits, spelled, form⟩, rfl⟩)
    -- The first letter tells that this is not the older form.
    · exact enclosed?_eq_some_iff.2 rfl
    · simp only [ofUriText?, uriOpening?, reduceCtorEq, if_false, if_true,
        hexBody?_eq_some_iff.2 form, Octets.Hex.decode?_eq_some_iff.2 spelled, Option.map_some]

theorem ofUriText?_string_eq_some_iff {text literal : List Char} :
    string.ofUriText? text = some literal ↔ text = string.toUriText literal := by
  simp only [ofUriText?, toUriText, uriOpening?, if_true, Option.bind_eq_some_iff,
    enclosed?_eq_some_iff, undoubleQuotes?_eq_some_iff, exists_eq_right]

/-- A text that is taken out of a URI is the one that is put into it, or that of octets in their
older form. -/
theorem ofUriText?_eq_some_iff {kind : PrimitiveKind} {text literal : List Char} :
    kind.ofUriText? text = some literal ↔
      text = kind.toUriText literal ∨
        kind = binary ∧ ∃ octets, IsHexForm text octets ∧ literal = octetsLiteral octets := by
  cases kind with
  | binary => simpa only [true_and] using ofUriText?_binary_eq_some_iff
  | string =>
    simpa only [reduceCtorEq, false_and, or_false] using ofUriText?_string_eq_some_iff
  | duration =>
    simp only [reduceCtorEq, false_and, or_false]
    exact enclosed?_eq_some_iff
  | _ => simp [ofUriText?, toUriText, uriOpening?]

theorem ofUri_eq_ok_iff {kind : PrimitiveKind} {uri literal : String} :
    kind.ofUri uri = .ok literal ↔ kind.ofUriText? uri.toList = some literal.toList := by
  unfold ofUri
  cases kind.ofUriText? uri.toList with
  | none => simp
  | some text => rw [Except.ok.injEq, Option.some_inj, ← String.toList_inj, String.toList_ofList]

theorem read_octetsLiteral (octets : List UInt8) :
    binary.read .empty .bytes (String.ofList (octetsLiteral octets)) = .ok (.bytes octets) := by
  have spelled := spelling?_octetsLiteral octets
  rw [read, check_of_spelling spelled rfl, valueOf_of_spelling spelled]
  rfl

/-- Literals in URIs are a faithful embedding. Every text comes back from the URI literal that it is
written as, and nothing else is accepted but the older form of octets, which is read as the literal
of these octets. -/
theorem uri_faithful (kind : PrimitiveKind) (literal uri : String) :
    kind.ofUri (kind.toUri literal) = .ok literal ∧
    (kind.ofUri uri = .ok literal ↔
      kind.toUri literal = uri ∨
        kind = binary ∧ ∃ octets, IsHexForm uri.toList octets ∧
          literal = String.ofList (octetsLiteral octets) ∧
          kind.read .empty .bytes literal = .ok (.bytes octets)) := by
  have whole : kind.toUri literal = uri ↔ uri.toList = kind.toUriText literal.toList := by
    rw [toUri, ← String.toList_inj, String.toList_ofList, eq_comm]
  constructor
  · rw [ofUri_eq_ok_iff, ofUriText?_eq_some_iff, toUri, String.toList_ofList]
    exact .inl rfl
  · rw [ofUri_eq_ok_iff, ofUriText?_eq_some_iff, whole]
    refine or_congr_right (and_congr_right ?_)
    rintro rfl
    refine exists_congr fun octets => and_congr_right fun _ => ?_
    constructor
    · intro same
      obtain rfl : literal = String.ofList (octetsLiteral octets) := by
        rw [← same, String.ofList_toList]
      exact ⟨rfl, read_octetsLiteral octets⟩
    · rintro ⟨rfl, -⟩
      exact String.toList_ofList

/-- The older form in mixed case, and quotes next to the delimiters. -/
example : binary.ofUri "x'01fF'" = .ok "Af8" ∧ string.ofUri "''''''" = .ok "''" ∧
    string.ofUri "'''" = .error (.malformedUri string.qualifiedName "'''") := by
  decide

end PrimitiveKind

end EntityModel
