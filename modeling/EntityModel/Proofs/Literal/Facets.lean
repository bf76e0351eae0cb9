import EntityModel.Literal.Scalar
import EntityModel.Proofs.Literal.RoundTrip

/-!
Facets turn literals and values down and do nothing else: what is read or written under them is what
is read or written without them. The facets that a kind does not list have no part in this, each of
the others does, and to relax them never turns down what was accepted.
-/

set_option autoImplicit false

namespace EntityModel

/-- Two records of facets give the same for a facet. -/
def Facet.Agrees (first second : Facets) : Facet → Prop
  | nullable => first.nullable = second.nullable
  | maxLength => first.maxLength = second.maxLength
  | precision => first.precision = second.precision
  | scale => first.scale = second.scale
  | unicode => first.unicode = second.unicode

/-- One limit is raised to another, or it is removed. -/
def Raises (limit higher : Option Nat) : Prop :=
  ∀ most, higher = some most → ∃ less ≤ most, limit = some less

namespace Facets

/-- The facets of a list. The others are not given. -/
def only (listed : List Facet) (facets : Facets) : Facets where
  nullable := if .nullable ∈ listed then facets.nullable else none
  maxLength := if .maxLength ∈ listed then facets.maxLength else none
  precision := if .precision ∈ listed then facets.precision else none
  scale := if .scale ∈ listed then facets.scale else none
  unicode := if .unicode ∈ listed then facets.unicode else none

theorem only_congr {listed : List Facet} {first second : Facets}
    (agree : ∀ facet ∈ listed, facet.Agrees first second) :
    first.only listed = second.only listed := by
  rw [only, only, mk.injEq]
  exact ⟨ite_congr rfl (agree .nullable) fun _ => rfl,
    ite_congr rfl (agree .maxLength) fun _ => rfl,
    ite_congr rfl (agree .precision) fun _ => rfl,
    ite_congr rfl (agree .scale) fun _ => rfl,
    ite_congr rfl (agree .unicode) fun _ => rfl⟩

/-- Limits are raised or removed, and null and characters beyond ASCII are ruled out only where they
already were. -/
structure Loosens (tight loose : Facets) : Prop where
  nullable : loose.nullable = some false → tight.nullable = some false
  maxLength : Raises tight.maxLength loose.maxLength
  precision : Raises tight.precision loose.precision
  scale : Raises tight.scale loose.scale
  unicode : loose.unicode = some false → tight.unicode = some false

theorem Loosens.allowsNull {tight loose : Facets} (looser : tight.Loosens loose)
    (allowed : tight.allowsNull = true) : loose.allowsNull = true := by
  rw [Facets.allowsNull, bne_iff_ne] at allowed ⊢
  exact fun forbidden => allowed (looser.nullable forbidden)

theorem loosens_empty (facets : Facets) : facets.Loosens .empty :=
  ⟨nofun, nofun, nofun, nofun, nofun⟩

end Facets

/-- A count within a limit is within a higher one. -/
theorem checkLimit_raise {limit higher : Option Nat} {count : Nat}
    {first second : Nat → ConversionError} (raised : Raises limit higher)
    (within : checkLimit limit count first = .ok ()) : checkLimit higher count second = .ok () := by
  rw [checkLimit_eq_ok_iff] at within ⊢
  intro most limited
  obtain ⟨less, le, lower⟩ := raised most limited
  exact Nat.le_trans (within less lower) le

namespace PrimitiveKind

section Check

variable {kind : PrimitiveKind} {tight loose : Facets}

theorem checkFacets_only (facets : Facets) (spelling : kind.Spelling) :
    kind.checkFacets (facets.only kind.knownFacets) spelling = kind.checkFacets facets spelling := by
  cases kind <;> rfl

theorem check_only (kind : PrimitiveKind) (facets : Facets) (literal : String) :
    kind.check (facets.only kind.knownFacets) literal = kind.check facets literal := by
  simp only [check, checkFacets_only]

theorem checkUnicode_loosen {text : String} (looser : tight.Loosens loose)
    (checked : kind.checkUnicode tight text = .ok ()) : kind.checkUnicode loose text = .ok () := by
  unfold checkUnicode at checked ⊢
  split at checked
  · cases checked
  · next allowed =>
    exact if_neg fun forbidden => allowed ⟨looser.unicode forbidden.1, forbidden.2⟩

theorem checkFacets_loosen {spelling : kind.Spelling} (looser : tight.Loosens loose)
    (checked : kind.checkFacets tight spelling = .ok ()) :
    kind.checkFacets loose spelling = .ok () := by
  cases kind with
  | binary => exact checkLimit_raise looser.maxLength checked
  | dateTimeOffset | duration | timeOfDay => exact checkLimit_raise looser.precision checked
  | decimal =>
    obtain ⟨⟨⟩, precision, scale⟩ := bind_eq_ok_iff.1 checked
    exact bind_eq_ok_iff.2
      ⟨(), checkLimit_raise looser.precision precision, checkLimit_raise looser.scale scale⟩
  | string =>
    obtain ⟨⟨⟩, length, unicode⟩ := bind_eq_ok_iff.1 checked
    exact bind_eq_ok_iff.2
      ⟨(), checkLimit_raise looser.maxLength length, checkUnicode_loosen looser unicode⟩
  | boolean | date | floating | guid | integer => rfl

theorem check_loosen {literal : String} (looser : tight.Loosens loose)
    (checked : kind.check tight literal = .ok ()) : kind.check loose literal = .ok () := by
  obtain ⟨spelling, read, within⟩ := check_eq_ok_iff.1 checked
  exact check_of_spelling read (checkFacets_loosen looser within)

end Check

section Outcomes

variable {kind : PrimitiveKind} {facets : Facets} {literal : String} {value : Value}

theorem allowsNull_only (kind : PrimitiveKind) (facets : Facets) :
    (facets.only kind.knownFacets).allowsNull = facets.allowsNull := by
  cases kind <;> rfl

theorem writeText_only (kind : PrimitiveKind) (facets : Facets) (value : Value) :
    kind.writeText (facets.only kind.knownFacets) value = kind.writeText facets value := by
  cases kind.writing value with
  | written text spelling under spelled => rw [under, checkFacets_only, under]
  | refused reason refuses => rw [refuses, refuses]

theorem validates_iff_check :
    kind.validates facets literal = true ↔ kind.check facets literal = .ok () := by
  unfold validates
  cases kind.check facets literal <;> simp

theorem read_eq_ok_iff {target : HostType} :
    kind.read facets target literal = .ok value ↔
      kind.check facets literal = .ok () ∧ kind.read .empty target literal = .ok value := by
  constructor
  · intro done
    obtain ⟨⟨⟩, passed, found⟩ := bind_eq_ok_iff.1 done
    exact ⟨passed, bind_eq_ok_iff.2 ⟨(), check_loosen facets.loosens_empty passed, found⟩⟩
  · rintro ⟨passed, done⟩
    obtain ⟨⟨⟩, -, found⟩ := bind_eq_ok_iff.1 done
    exact bind_eq_ok_iff.2 ⟨(), passed, found⟩

theorem write_loosen {tight loose : Facets} (looser : tight.Loosens loose)
    (done : kind.write tight value = .ok literal) : kind.write loose value = .ok literal := by
  obtain ⟨text, written, same⟩ := map_eq_ok_iff.1 done
  obtain ⟨spelling, passed, under, -⟩ := exists_spelling_of_writeText written
  exact map_eq_ok_iff.2 ⟨text, under loose (checkFacets_loosen looser passed), same⟩

end Outcomes

end PrimitiveKind

namespace ScalarType

variable {kind : PrimitiveKind} {facets : Facets} {literal : Option String} {value : Option Value}

theorem validates_only (kind : PrimitiveKind) (facets : Facets) (literal : Option String) :
    (primitive kind).validates (facets.only kind.knownFacets) literal =
      (primitive kind).validates facets literal := by
  cases literal with
  | none => exact kind.allowsNull_only facets
  | some text => simp only [validates, PrimitiveKind.validates, kind.check_only]

theorem ofNull_only (kind : PrimitiveKind) (facets : Facets) (α : Type) :
    (primitive kind).ofNull (facets.only kind.knownFacets) (α := α) =
      (primitive kind).ofNull facets := by
  rw [ofNull, kind.allowsNull_only, ofNull]

theorem read_only (kind : PrimitiveKind) (facets : Facets) (target : HostType)
    (literal : Option String) :
    (primitive kind).read (facets.only kind.knownFacets) target literal =
      (primitive kind).read facets target literal := by
  cases literal with
  | none => exact ofNull_only kind facets Value
  | some text => simp only [read, PrimitiveKind.read, kind.check_only]

theorem write_only (kind : PrimitiveKind) (facets : Facets) (value : Option Value) :
    (primitive kind).write (facets.only kind.knownFacets) value =
      (primitive kind).write facets value := by
  cases value with
  | none => exact ofNull_only kind facets String
  | some value =>
    simp only [write, PrimitiveKind.write, kind.writeText_only]

theorem validates_loosen {tight loose : Facets} (looser : tight.Loosens loose)
    (valid : (primitive kind).validates tight literal = true) :
    (primitive kind).validates loose literal = true := by
  cases literal with
  | none => exact looser.allowsNull valid
  | some text =>
    exact PrimitiveKind.validates_iff_check.2
      (PrimitiveKind.check_loosen looser (PrimitiveKind.validates_iff_check.1 valid))

theorem ofNull_eq_ok_iff {type : ScalarType} {α : Type} {outcome : Option α} :
    type.ofNull facets = .ok outcome ↔
      facets.allowsNull = true ∧ type.ofNull .empty = .ok outcome := by
  unfold ofNull
  cases facets.allowsNull with
  | true => exact ⟨fun done => ⟨rfl, done⟩, fun ⟨_, done⟩ => done⟩
  | false => exact ⟨nofun, nofun⟩

/-- Facets decide whether a literal is read, not what is read. -/
theorem read_eq_ok_iff {target : HostType} :
    (primitive kind).read facets target literal = .ok value ↔
      (primitive kind).validates facets literal = true ∧
        (primitive kind).read .empty target literal = .ok value := by
  cases literal with
  | none => exact ofNull_eq_ok_iff
  | some text =>
    simp only [read, validates, map_eq_ok_iff, PrimitiveKind.validates_iff_check]
    constructor
    · rintro ⟨held, done, rfl⟩
      obtain ⟨passed, found⟩ := PrimitiveKind.read_eq_ok_iff.1 done
      exact ⟨passed, held, found, rfl⟩
    · rintro ⟨passed, held, found, rfl⟩
      exact ⟨held, PrimitiveKind.read_eq_ok_iff.2 ⟨passed, found⟩, rfl⟩

/-- Facets decide whether a value is written, not what is written. -/
theorem write_loosen {tight loose : Facets} (looser : tight.Loosens loose)
    (done : (primitive kind).write tight value = .ok literal) :
    (primitive kind).write loose value = .ok literal := by
  cases value with
  | none =>
    obtain ⟨allowed, free⟩ := ofNull_eq_ok_iff.1 done
    exact ofNull_eq_ok_iff.2 ⟨looser.allowsNull allowed, free⟩
  | some value =>
    obtain ⟨text, found, same⟩ := map_eq_ok_iff.1 done
    exact map_eq_ok_iff.2 ⟨text, PrimitiveKind.write_loosen looser found, same⟩

/-- What is written for a value in range, or for none, is valid. -/
theorem valid_of_write (inRange : ∀ held, value = some held → held.InRange)
    (done : (primitive kind).write facets value = .ok literal) :
    (primitive kind).validates facets literal = true := by
  cases value with
  | none =>
    obtain ⟨allowed, free⟩ := ofNull_eq_ok_iff.1 done
    cases free
    exact allowed
  | some value =>
    obtain ⟨text, found, rfl⟩ := map_eq_ok_iff.1 done
    exact PrimitiveKind.validates_iff_check.2
      (PrimitiveKind.check_of_write (inRange value rfl) found)

section Spellings

variable {literal : String} {spelling : kind.Spelling}

theorem validates_empty_iff :
    (primitive kind).validates .empty (some literal) = true ↔
      ∃ spelling, kind.spelling? literal = some spelling := by
  rw [validates, PrimitiveKind.validates_iff_check, PrimitiveKind.check_eq_ok_iff]
  simp only [PrimitiveKind.checkFacets_empty, and_true]

theorem validates_iff_checkFacets (spelled : kind.spelling? literal = some spelling) :
    (primitive kind).validates facets (some literal) = true ↔
      kind.checkFacets facets spelling = .ok () := by
  rw [validates, PrimitiveKind.validates_iff_check, PrimitiveKind.check_eq_checkFacets spelled]

/-- A literal that keeps to the facets is read as its spelling says. -/
theorem read_of_spelling (spelled : kind.spelling? literal = some spelling)
    (kept : kind.checkFacets facets spelling = .ok ()) (target : HostType) :
    (primitive kind).read facets target (some literal) =
      (kind.spellingValue literal spelling target).map some := by
  rw [read, PrimitiveKind.read, PrimitiveKind.check_of_spelling spelled kept, ok_bind,
    PrimitiveKind.valueOf_of_spelling spelled]

theorem read_empty {target : HostType} (spelled : kind.spelling? literal = some spelling) :
    (primitive kind).read .empty target (some literal) =
      (kind.spellingValue literal spelling target).map some :=
  read_of_spelling spelled (PrimitiveKind.checkFacets_empty spelling) target

theorem exists_spelling_of_valid (valid : (primitive kind).validates facets (some literal) = true) :
    ∃ spelling, kind.spelling? literal = some spelling ∧ ∀ target,
      (primitive kind).read facets target (some literal) =
        (kind.spellingValue literal spelling target).map some := by
  obtain ⟨spelling, spelled, kept⟩ :=
    PrimitiveKind.check_eq_ok_iff.1 (PrimitiveKind.validates_iff_check.1 valid)
  exact ⟨spelling, spelled, read_of_spelling spelled kept⟩

end Spellings

end ScalarType

namespace PrimitiveKind

variable {kind : PrimitiveKind} {facet : Facet}

/-- A literal and its value are taken when no facets are given; under the facets both are turned
down, whatever the literal is read into. -/
structure TurnsDown (kind : PrimitiveKind) (facets : Facets) (literal : Option String)
    (value : Option Value) : Prop where
  valid : (ScalarType.primitive kind).validates .empty literal = true
  read : (ScalarType.primitive kind).read .empty kind.hostType literal = .ok value
  written : (ScalarType.primitive kind).write .empty value = .ok literal
  invalid : (ScalarType.primitive kind).validates facets literal = false
  unread : ∀ target outcome, (ScalarType.primitive kind).read facets target literal ≠ .ok outcome
  unwritten : ∀ outcome, (ScalarType.primitive kind).write facets value ≠ .ok outcome

/-- Given alone, a facet turns something down. -/
def Heeds (kind : PrimitiveKind) (facet : Facet) : Prop :=
  ∃ (facets : Facets) (literal : Option String) (value : Option Value),
    kind.TurnsDown (facets.only [facet]) literal value

theorem turnsDown_of_invalid {facets : Facets} {literal : Option String} {value : Option Value}
    (read : (ScalarType.primitive kind).read .empty kind.hostType literal = .ok value)
    (written : (ScalarType.primitive kind).write .empty value = .ok literal)
    (invalid : (ScalarType.primitive kind).validates facets literal = false) :
    kind.TurnsDown facets literal value where
  valid := (ScalarType.read_eq_ok_iff.1 read).1
  read := read
  written := written
  invalid := invalid
  unread := by
    intro target outcome done
    have valid := (ScalarType.read_eq_ok_iff.1 done).1
    rw [invalid] at valid
    cases valid
  unwritten := by
    intro outcome done
    have other := ScalarType.write_loosen facets.loosens_empty done
    rw [written] at other
    cases other
    have inRange (held : Value) (same : value = some held) : held.InRange := by
      rw [same] at read
      exact (ScalarType.stable_of_read read).1
    have valid := ScalarType.valid_of_write inRange done
    rw [invalid] at valid
    cases valid

theorem heeds_nullable (kind : PrimitiveKind) : kind.Heeds .nullable :=
  ⟨{ nullable := some false }, none, none, turnsDown_of_invalid (by rfl) (by rfl) (by rfl)⟩

theorem heeds_maxLength (known : .maxLength ∈ kind.knownFacets) : kind.Heeds .maxLength := by
  cases kind with
  | binary =>
    exact ⟨{ maxLength := some 0 }, some "AA", some (.bytes [0]),
      turnsDown_of_invalid (by rfl) (by rfl) (by rfl)⟩
  | string =>
    exact ⟨{ maxLength := some 0 }, some "a", some (.string "a"),
      turnsDown_of_invalid (by rfl) (by rfl) (by rfl)⟩
  | _ => simp [knownFacets] at known

/-- Half a unit has a digit too many where none may be. -/
theorem heeds_precision (known : .precision ∈ kind.knownFacets) : kind.Heeds .precision := by
  cases kind with
  | dateTimeOffset =>
    exact ⟨{ precision := some 0 }, some "1970-01-01T00:00:00.5Z",
      some (.dateTimeOffset ⟨0, 500000000, 0, by decide, by decide, by decide⟩),
      turnsDown_of_invalid (by rfl) (by rfl) (by rfl)⟩
  | decimal =>
    exact ⟨{ precision := some 0 }, some "0.5", some (.decimal ⟨5, 1, by decide, by decide⟩),
      turnsDown_of_invalid (by rfl) (by rfl) (by rfl)⟩
  | duration =>
    exact ⟨{ precision := some 0 }, some "PT0.5S",
      some (.duration ⟨500000000, by decide, by decide⟩),
      turnsDown_of_invalid (by rfl) (by rfl) (by rfl)⟩
  | timeOfDay =>
    exact ⟨{ precision := some 0 }, some "00:00:00.5", some (.timeOfDay ⟨500000000, by decide⟩),
      turnsDown_of_invalid (by rfl) (by rfl) (by rfl)⟩
  | _ => simp [knownFacets] at known

theorem heeds_scale (known : .scale ∈ kind.knownFacets) : kind.Heeds .scale := by
  cases kind with
  | decimal =>
    exact ⟨{ scale := some 0 }, some "0.5", some (.decimal ⟨5, 1, by decide, by decide⟩),
      turnsDown_of_invalid (by rfl) (by rfl) (by rfl)⟩
  | _ => simp [knownFacets] at known

theorem heeds_unicode (known : .unicode ∈ kind.knownFacets) : kind.Heeds .unicode := by
  cases kind with
  | string =>
    exact ⟨{ unicode := some false }, some "é", some (.string "é"),
      turnsDown_of_invalid (by rfl) (by rfl) (by rfl)⟩
  | _ => simp [knownFacets] at known

theorem heeds_of_known (known : facet ∈ kind.knownFacets) : kind.Heeds facet := by
  cases facet with
  | nullable => exact kind.heeds_nullable
  | maxLength => exact heeds_maxLength known
  | precision => exact heeds_precision known
  | scale => exact heeds_scale known
  | unicode => exact heeds_unicode known

end PrimitiveKind

namespace ScalarType

/-- Facets only filter. Records that agree on the facets a kind knows give the same outcomes, and
each of these facets matters. What is read or written under facets is so without them, too, and a
literal is read under facets exactly if it is valid under them and read without. Looser facets take
all that tighter ones take, with the same outcomes. -/
theorem facets_only_filter (kind : PrimitiveKind) :
    (∀ first second : Facets, (∀ facet ∈ kind.knownFacets, facet.Agrees first second) →
      ∀ (literal : Option String) (value : Option Value) (target : HostType),
        (primitive kind).validates first literal = (primitive kind).validates second literal ∧
        (primitive kind).read first target literal = (primitive kind).read second target literal ∧
        (primitive kind).write first value = (primitive kind).write second value) ∧
    (∀ facet ∈ kind.knownFacets, kind.Heeds facet) ∧
    (∀ (facets : Facets) (target : HostType) (literal : Option String) (outcome : Option Value),
      (primitive kind).read facets target literal = .ok outcome ↔
        (primitive kind).validates facets literal = true ∧
          (primitive kind).read .empty target literal = .ok outcome) ∧
    (∀ (facets : Facets) (value : Option Value) (outcome : Option String),
      (primitive kind).write facets value = .ok outcome →
        (primitive kind).write .empty value = .ok outcome) ∧
    (∀ tight loose : Facets, tight.Loosens loose →
      (∀ literal, (primitive kind).validates tight literal = true →
        (primitive kind).validates loose literal = true) ∧
      (∀ target literal outcome, (primitive kind).read tight target literal = .ok outcome →
        (primitive kind).read loose target literal = .ok outcome) ∧
      (∀ value outcome, (primitive kind).write tight value = .ok outcome →
        (primitive kind).write loose value = .ok outcome)) := by
  refine ⟨?same, fun _ => PrimitiveKind.heeds_of_known, fun _ _ _ _ => read_eq_ok_iff,
    fun facets _ _ => write_loosen facets.loosens_empty, ?looser⟩
  case same =>
    intro first second agree literal value target
    have same := Facets.only_congr agree
    refine ⟨?_, ?_, ?_⟩
    · rw [← validates_only kind first, same, validates_only]
    · rw [← read_only kind first, same, read_only]
    · rw [← write_only kind first, same, write_only]
  case looser =>
    intro tight loose looser
    refine ⟨fun _ => validates_loosen looser, ?_, fun _ _ => write_loosen looser⟩
    intro target literal outcome done
    obtain ⟨valid, free⟩ := read_eq_ok_iff.1 done
    exact read_eq_ok_iff.2 ⟨validates_loosen looser valid, free⟩

end ScalarType

end EntityModel
