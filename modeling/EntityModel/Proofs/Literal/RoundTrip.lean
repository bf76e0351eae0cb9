import EntityModel.Proofs.Literal.Agreement
import EntityModel.Proofs.Literal.Duration
import EntityModel.Proofs.Literal.Floating
import EntityModel.Proofs.Number.Places
import EntityModel.Proofs.Octets

/-!
Literals that are written are valid, and reading, writing and reading again leads to the same value.
A value is written as one text, whose spelling the facets check, and for each kind the grammar reads
this spelling from the text; of instants the offset has to be in range. That the facets of the first
literal hold of the new one, too, is seen from the digits that it keeps.
-/

set_option autoImplicit false

namespace EntityModel

open EntityModel.Calendar EntityModel.Text

/-- The offset of an instant is in range. Other values have nothing that could be out of it. -/
def Value.InRange : Value → Prop
  | dateTimeOffset instant => instant.InRange
  | _ => True

namespace PrimitiveKind

section Spellings

theorem spelling?_octetsLiteral (octets : List UInt8) :
    binary.spelling? (String.ofList (octetsLiteral octets)) = some octets := by
  rw [spelling?, String.toList_ofList, readOctets?_octetsLiteral]

theorem spelling?_boolLiteral (b : Bool) :
    boolean.spelling? (String.ofList (boolLiteral b)) = some b := by
  rw [spelling?, String.toList_ofList]
  cases b <;> rfl

theorem spelling?_date (day : Date) :
    date.spelling? (String.ofList day.literal) = some day.civil := by
  rw [spelling?, String.toList_ofList, day.readDate?_literal]

theorem spelling?_dateTimeOffset {instant : DateTimeOffset} (inRange : instant.InRange) :
    dateTimeOffset.spelling? (String.ofList instant.literal) = some instant.spelling := by
  rw [spelling?, String.toList_ofList, DateTimeOffset.read?_literal inRange]

theorem spelling?_decimal (d : Decimal) :
    decimal.spelling? (String.ofList d.toNumeral.positionalText) = some d.toNumeral := by
  rw [spelling?, String.toList_ofList, d.read?_positionalText]

theorem spelling?_duration (nanos : Int) :
    duration.spelling? (String.ofList (durationLiteral nanos)) =
      some (DurationSpelling.ofNanos nanos) := by
  rw [spelling?, String.toList_ofList, DurationSpelling.read?_durationLiteral]

theorem spelling?_floating {format : FloatFormat} (x : Floating format) :
    ∃ spelling : FloatingSpelling,
      (floating format).spelling? (String.ofList x.literal) = some spelling ∧
        spelling.toFloating format = x := by
  obtain ⟨spelling, read, same⟩ := FloatingSpelling.read?_literal x
  exact ⟨spelling, by rwa [spelling?, String.toList_ofList], same⟩

theorem spelling?_guid (id : Guid) : guid.spelling? (String.ofList id.text) = some id.text := by
  rw [spelling?, String.toList_ofList]
  exact if_pos id.hasForm_text

theorem spelling?_integer {width : IntegerWidth} (n : SizedInt width) :
    (integer width).spelling? (String.ofList (Text.integer n.val)) = some n := by
  rw [spelling?, String.toList_ofList]
  exact SizedInt.read?_eq_some_iff.2 (integerText_integer n.val)

theorem spelling?_timeOfDay (time : TimeOfDay) :
    timeOfDay.spelling? (String.ofList time.literal) = some time.clock := by
  rw [spelling?, String.toList_ofList, time.readTime?_literal]

end Spellings

section Validity

variable {kind : PrimitiveKind} {facets : Facets} {value : Value} {text : List Char}

theorem check_eq_checkFacets {literal : String} {spelling : kind.Spelling}
    (read : kind.spelling? literal = some spelling) :
    kind.check facets literal = kind.checkFacets facets spelling := by
  rw [check, read]

theorem check_of_spelling {literal : String} {spelling : kind.Spelling}
    (read : kind.spelling? literal = some spelling)
    (passed : kind.checkFacets facets spelling = .ok ()) : kind.check facets literal = .ok () :=
  (check_eq_checkFacets read).trans passed

theorem checkFacets_empty (spelling : kind.Spelling) :
    kind.checkFacets .empty spelling = .ok () := by
  cases kind <;> rfl

/-- How a kind writes a value, whatever the facets are: as one text, of which they check a spelling,
or not at all. The text of a value in range is spelled like this. -/
inductive Writing (kind : PrimitiveKind) (value : Value) : Prop where
  | written (text : List Char) (spelling : kind.Spelling) :
      (∀ facets, kind.writeText facets value = do
        kind.checkFacets facets spelling
        return text) →
      (value.InRange → kind.spelling? (String.ofList text) = some spelling) → Writing kind value
  | refused (reason : ConversionError) :
      (∀ facets, kind.writeText facets value = .error reason) → Writing kind value

theorem writing_decimal (value : Value) : decimal.Writing value := by
  cases found : toDecimal value with
  | error reason => exact .refused reason fun facets => bind_eq_error_iff.2 (.inl found)
  | ok d =>
    have spelled := spelling?_decimal d.normalize
    refine .written _ _ (fun facets => ?_) fun _ => spelled
    simp only [writeText, writeDecimal, found, ok_bind, check_eq_checkFacets spelled]

theorem writing_duration (value : Value) : duration.Writing value := by
  cases found : toNanos value with
  | error reason => exact .refused reason fun facets => bind_eq_error_iff.2 (.inl found)
  | ok nanos =>
    refine .written _ _ (fun facets => ?_) fun _ => spelling?_duration nanos
    rw [writeText, writeDuration, found, ok_bind, ← length_writtenFraction]
    rfl

theorem writing_integer (width : IntegerWidth) (value : Value) :
    (integer width).Writing value := by
  cases value with
  | integer source n =>
    by_cases contains : width.Contains n.val
    · exact .written _ _ (fun _ => if_pos contains) fun _ => spelling?_integer ⟨n.val, contains⟩
    · exact .refused _ fun _ => if_neg contains
  | _ => exact .refused _ fun _ => rfl

theorem writing_floating (format : FloatFormat) (value : Value) :
    (floating format).Writing value := by
  cases found : toFloating format value with
  | error reason => exact .refused reason fun facets => map_eq_error_iff.2 found
  | ok x =>
    -- Which spelling is read does not matter here: no facet is known.
    obtain ⟨spelling, spelled, -⟩ := spelling?_floating x
    exact .written _ _ (fun _ => map_eq_ok_iff.2 ⟨x, found, rfl⟩) fun _ => spelled

theorem writing (kind : PrimitiveKind) (value : Value) : kind.Writing value := by
  cases kind with
  | binary =>
    cases value with
    | bytes octets => exact .written _ _ (fun _ => rfl) fun _ => spelling?_octetsLiteral octets
    | _ => exact .refused _ fun _ => rfl
  | boolean =>
    cases value with
    | bool b => exact .written _ _ (fun _ => rfl) fun _ => spelling?_boolLiteral b
    | _ => exact .refused _ fun _ => rfl
  | date =>
    cases value with
    | date day => exact .written _ _ (fun _ => rfl) fun _ => spelling?_date day
    | dateTimeOffset instant =>
      exact .written _ _ (fun _ => rfl) fun _ => spelling?_date instant.localDate
    | _ => exact .refused _ fun _ => rfl
  | dateTimeOffset =>
    cases value with
    | dateTimeOffset instant =>
      refine .written _ instant.spelling (fun facets => ?_) spelling?_dateTimeOffset
      rw [writeText, ← instant.localTime.fractionLength_clock]
      rfl
    | _ => exact .refused _ fun _ => rfl
  | decimal => exact writing_decimal value
  | floating format => exact writing_floating format value
  | duration => exact writing_duration value
  | guid =>
    cases value with
    | uuid id => exact .written _ _ (fun _ => rfl) fun _ => spelling?_guid id
    | _ => exact .refused _ fun _ => rfl
  | integer width => exact writing_integer width value
  | string =>
    cases value with
    | string text =>
      refine .written text.toList text (fun _ => rfl) fun _ => ?_
      rw [String.ofList_toList]
      rfl
    | _ => exact .refused _ fun _ => rfl
  | timeOfDay =>
    cases value with
    | timeOfDay time =>
      refine .written _ _ (fun facets => ?_) fun _ => spelling?_timeOfDay time
      rw [writeText, ← time.fractionLength_clock]
      rfl
    | _ => exact .refused _ fun _ => rfl

/-- What is written has a spelling that passed, and under other facets it is written if its spelling
passes those, too. -/
theorem exists_spelling_of_writeText (written : kind.writeText facets value = .ok text) :
    ∃ spelling, kind.checkFacets facets spelling = .ok () ∧
      (∀ others, kind.checkFacets others spelling = .ok () →
        kind.writeText others value = .ok text) ∧
      (value.InRange → kind.spelling? (String.ofList text) = some spelling) := by
  cases kind.writing value with
  | refused reason refuses =>
    rw [refuses] at written
    cases written
  | written other spelling under spelled =>
    rw [under] at written
    obtain ⟨⟨⟩, passed, same⟩ := bind_eq_ok_iff.1 written
    cases same
    refine ⟨spelling, passed, fun others passes => ?_, spelled⟩
    rw [under, passes]
    rfl

/-- What is written passes the check, with the facets with which it was written. -/
theorem check_of_writeText (inRange : value.InRange)
    (written : kind.writeText facets value = .ok text) :
    kind.check facets (String.ofList text) = .ok () := by
  obtain ⟨spelling, passed, -, spelled⟩ := exists_spelling_of_writeText written
  exact check_of_spelling (spelled inRange) passed

theorem check_of_write {literal : String} (inRange : value.InRange)
    (written : kind.write facets value = .ok literal) : kind.check facets literal = .ok () := by
  obtain ⟨text, textual, rfl⟩ := map_eq_ok_iff.1 written
  exact check_of_writeText inRange textual

end Validity

section Reading

variable {kind : PrimitiveKind} {facets : Facets} {literal : String} {value : Value}

theorem checkPrecision_mono {few many : Nat} (le : few ≤ many)
    (checked : kind.checkPrecision facets many = .ok ()) :
    kind.checkPrecision facets few = .ok () :=
  checkLimit_eq_ok_iff.2 fun most limited =>
    Nat.le_trans le (checkLimit_eq_ok_iff.1 checked most limited)

theorem valueOf_of_spelling {target : HostType} {spelling : kind.Spelling}
    (read : kind.spelling? literal = some spelling) :
    kind.valueOf literal target = kind.spellingValue literal spelling target := by
  rw [valueOf, read]

/-- The time of day that is read shows no more digits of its fraction than the literal does. -/
theorem timeOf_eq_ok {time : ClockTime} {target : HostType} {result : TimeOfDay}
    (read : kind.timeOf literal time target = .ok result) :
    (writeFraction result.nano).tail.length ≤ time.fractionLength := by
  obtain ⟨nanos, found, read⟩ := bind_eq_ok_iff.1 read
  have fraction := orMisfit_eq_ok found
  have below := nanosOfFraction?_lt fraction
  split at read
  · next built =>
    cases read
    have same := TimeOfDay.nanos_ofClock? built
    have nano : result.nano = nanos := by
      rw [TimeOfDay.nano, same, Nat.mul_add_mod_self_right, Nat.mod_eq_of_lt below]
    rw [nano]
    exact length_writeFraction_le fraction
  · cases read

theorem floatingLiteralValue_self (format : FloatFormat) (literal : String)
    (spelling : FloatingSpelling) :
    floatingLiteralValue format literal spelling (.floating format) =
      .ok (.floating format (spelling.toFloating format)) := by
  cases format <;> simp [floatingLiteralValue]

theorem toFloating_self {format : FloatFormat} (x : Floating format) :
    toFloating format (.floating format x) = .ok x := by
  unfold toFloating
  dsimp only
  rw [x.convert_self, x.convert_self, if_pos rfl]

end Reading

end PrimitiveKind

/-- Two values are the same; decimals are compared as numbers, whatever their scales are. -/
def Value.Same : Value → Value → Prop
  | decimal first, decimal second => first.toRat = second.toRat
  | first, second => first = second

namespace PrimitiveKind

variable {kind : PrimitiveKind} {facets : Facets} {literal : String} {value : Value}

/-- A value in range is written under the facets, and the same value is read from what is written. -/
def Stable (kind : PrimitiveKind) (facets : Facets) (value : Value) : Prop :=
  value.InRange ∧ ∃ text back, kind.writeText facets value = .ok text ∧
    kind.valueOf (String.ofList text) kind.hostType = .ok back ∧ back.Same value

theorem stable_bytes {octets : List UInt8}
    (checked : binary.checkLength facets octets.length = .ok ()) :
    binary.Stable facets (.bytes octets) := by
  refine ⟨trivial, octetsLiteral octets, .bytes octets, bind_eq_ok_iff.2 ⟨(), checked, rfl⟩, ?_, rfl⟩
  rw [valueOf_of_spelling (spelling?_octetsLiteral octets)]
  rfl

theorem stable_bool (b : Bool) : boolean.Stable facets (.bool b) := by
  refine ⟨trivial, boolLiteral b, .bool b, rfl, ?_, rfl⟩
  rw [valueOf_of_spelling (spelling?_boolLiteral b)]
  rfl

theorem stable_date (day : Date) : date.Stable facets (.date day) := by
  refine ⟨trivial, day.literal, .date day, rfl, ?_, rfl⟩
  rw [valueOf_of_spelling (spelling?_date day)]
  simp only [hostType, spellingValue, dateLiteralValue, dateOf, day.ofCivil?_civil, orMisfit,
    Except.map]

theorem timeOf_clock (kind : PrimitiveKind) (literal : String) (time : TimeOfDay)
    (target : HostType) : kind.timeOf literal time.clock target = .ok time := by
  simp only [timeOf, time.nanosOfFraction?_clock, orMisfit, bind, Except.bind]
  have clock := time.ofClock?_clock
  rw [TimeOfDay.clock]
  dsimp only
  rw [clock]

theorem instantLiteralValue_of_parts {spelling : InstantSpelling} {day : Date} {time : TimeOfDay}
    {instant : DateTimeOffset} (literal : String)
    (day_read : dateTimeOffset.dateOf literal spelling.date .dateTimeOffset = .ok day)
    (time_read : dateTimeOffset.timeOf literal spelling.time .dateTimeOffset = .ok time)
    (found : DateTimeOffset.ofLocal? day time spelling.offset = some instant) :
    instantLiteralValue literal spelling .dateTimeOffset = .ok (.dateTimeOffset instant) := by
  simp only [instantLiteralValue, day_read, time_read, found, orMisfit, bind, Except.bind,
    Except.map]

theorem instantLiteralValue_spelling (literal : String) (instant : DateTimeOffset) :
    instantLiteralValue literal instant.spelling .dateTimeOffset =
      .ok (.dateTimeOffset instant) := by
  have day_read : dateTimeOffset.dateOf literal instant.localDate.civil .dateTimeOffset =
      .ok instant.localDate := by
    rw [dateOf, instant.localDate.ofCivil?_civil, orMisfit]
  exact instantLiteralValue_of_parts literal day_read (timeOf_clock _ _ _ _) instant.ofLocal?_local

theorem stable_dateTimeOffset {instant : DateTimeOffset} (inRange : instant.InRange)
    (checked : dateTimeOffset.checkPrecision facets instant.localTime.fractionLength = .ok ()) :
    dateTimeOffset.Stable facets (.dateTimeOffset instant) := by
  refine ⟨inRange, instant.literal, .dateTimeOffset instant, bind_eq_ok_iff.2 ⟨(), checked, rfl⟩, ?_, rfl⟩
  rw [valueOf_of_spelling (spelling?_dateTimeOffset inRange)]
  exact instantLiteralValue_spelling _ instant

theorem stable_timeOfDay {time : TimeOfDay}
    (checked : timeOfDay.checkPrecision facets time.fractionLength = .ok ()) :
    timeOfDay.Stable facets (.timeOfDay time) := by
  refine ⟨trivial, time.literal, .timeOfDay time, bind_eq_ok_iff.2 ⟨(), checked, rfl⟩, ?_, rfl⟩
  rw [valueOf_of_spelling (spelling?_timeOfDay time)]
  simp only [hostType, spellingValue, timeLiteralValue, timeOf_clock, Except.map]

theorem stable_decimal {d : Decimal}
    (checked : decimal.checkFacets facets d.normalize.toNumeral = .ok ()) :
    decimal.Stable facets (.decimal d) := by
  have passed := check_of_spelling (spelling?_decimal d.normalize) checked
  refine ⟨trivial, d.normalize.toNumeral.positionalText, .decimal d.normalize, ?_, ?_, d.toRat_normalize⟩
  · exact bind_eq_ok_iff.2 ⟨d, rfl, bind_eq_ok_iff.2 ⟨(), passed, rfl⟩⟩
  · rw [valueOf_of_spelling (spelling?_decimal d.normalize)]
    simp only [hostType, spellingValue, decimalLiteralValue, Decimal.ofNumeral?_toNumeral,
      decimalValue]

theorem decimalLiteralValue_eq_ok {n : Numeral}
    (read : decimalLiteralValue literal n .decimal = .ok value) :
    ∃ d, Decimal.ofNumeral? n = some d ∧ Value.decimal d = value := by
  unfold decimalLiteralValue at read
  split at read
  · next d found => exact ⟨d, found, Except.ok.inj read⟩
  · cases read

/-- The facets count the same digits in a numeral and in the decimal that it spells. -/
theorem checkFacets_normalize {n : Numeral} {d : Decimal} (follows : n.Follows Decimal.form)
    (checked : decimal.checkFacets facets n = .ok ()) (found : Decimal.ofNumeral? n = some d) :
    decimal.checkFacets facets d.normalize.toNumeral = .ok () := by
  have same : d.normalize.toNumeral.value = n.value :=
    d.value_normalize.trans (Decimal.toRat_ofNumeral? found)
  obtain ⟨significant, fraction⟩ :=
    Numeral.digitCounts_congr d.normalize.toNumeral_follows follows same
  unfold checkFacets at checked ⊢
  dsimp only at checked ⊢
  rw [significant, fraction]
  exact checked

theorem stable_floating {format : FloatFormat} (x : Floating format) :
    (floating format).Stable facets (.floating format x) := by
  obtain ⟨spelling, spelled, same⟩ := spelling?_floating x
  refine ⟨trivial, x.literal, .floating format x, map_eq_ok_iff.2 ⟨x, toFloating_self x, rfl⟩, ?_, rfl⟩
  rw [valueOf_of_spelling spelled]
  simp only [hostType, spellingValue, floatingLiteralValue_self, same]

theorem durationLiteralValue_of_some {spelling : DurationSpelling} {length : Duration}
    (read : spelling.toDuration? = some length) :
    durationLiteralValue literal spelling .duration = .ok (.duration length) := by
  rw [durationLiteralValue, read]
  rfl

theorem stable_duration {length : Duration} (fits : length.nanos.natAbs < 2 ^ 127)
    (checked : duration.checkPrecision facets
      (writeFraction (length.nanos.natAbs % nanosPerSecond)).tail.length = .ok ()) :
    duration.Stable facets (.duration length) := by
  refine ⟨trivial, durationLiteral length.nanos, .duration length, ?_, ?_, rfl⟩
  · exact bind_eq_ok_iff.2 ⟨length.nanos, rfl, bind_eq_ok_iff.2 ⟨(), checked, rfl⟩⟩
  · rw [valueOf_of_spelling (spelling?_duration length.nanos)]
    exact durationLiteralValue_of_some (DurationSpelling.toDuration?_ofNanos fits)

theorem stable_uuid (id : Guid) : guid.Stable facets (.uuid id) := by
  refine ⟨trivial, id.text, .uuid id, rfl, ?_, rfl⟩
  rw [valueOf_of_spelling (spelling?_guid id)]
  simp only [hostType, spellingValue, guidLiteralValue, id.read?_text]

theorem guidLiteralValue_eq_ok {text : List Char}
    (read : guidLiteralValue literal text .uuid = .ok value) : ∃ id, .uuid id = value := by
  dsimp only [guidLiteralValue] at read
  split at read
  · next id _ => exact ⟨id, Except.ok.inj read⟩
  · cases read

theorem ofInt?_self {width : IntegerWidth} (n : SizedInt width) :
    Value.ofInt? n.val (.integer width) = some (.integer width n) := by
  rw [Value.ofInt?, SizedInt.ofInt?, dif_pos n.contains, Option.map_some]

theorem stable_integer {width : IntegerWidth} (n : SizedInt width) :
    (integer width).Stable facets (.integer width n) := by
  refine ⟨trivial, Text.integer n.val, .integer width n, ?_, ?_, rfl⟩
  · simp only [writeText, writeInteger, n.contains, if_true]
  · rw [valueOf_of_spelling (spelling?_integer n)]
    simp only [hostType, spellingValue, integerValue, ofInt?_self, orMisfit]

theorem stable_string {s : String} (checked : string.check facets s = .ok ()) :
    string.Stable facets (.string s) := by
  refine ⟨trivial, s.toList, .string s, bind_eq_ok_iff.2 ⟨(), checked, rfl⟩, ?_, rfl⟩
  rw [String.ofList_toList]
  rfl

/-- What a kind reads as its own host type it writes, and reads the same value from what it has
written. -/
theorem stable_of_spelling {spelling : kind.Spelling}
    (read : kind.spelling? literal = some spelling)
    (checked : kind.checkFacets facets spelling = .ok ())
    (converted : kind.spellingValue literal spelling kind.hostType = .ok value) :
    kind.Stable facets value := by
  cases kind with
  | binary =>
    cases converted
    exact stable_bytes checked
  | boolean =>
    cases converted
    exact stable_bool _
  | date =>
    obtain ⟨day, -, rfl⟩ := map_eq_ok_iff.1 converted
    exact stable_date day
  | dateTimeOffset =>
    obtain ⟨day, -, converted⟩ := bind_eq_ok_iff.1 converted
    obtain ⟨time, time_read, converted⟩ := bind_eq_ok_iff.1 converted
    obtain ⟨instant, found, rfl⟩ := map_eq_ok_iff.1 converted
    obtain ⟨nano, offset⟩ := DateTimeOffset.ofParts?_eq_some (orMisfit_eq_ok found)
    have inRange : instant.InRange := by
      rw [DateTimeOffset.InRange, offset]
      exact (InstantSpelling.read?_eq_some_iff.1 read).offset_le
    refine stable_dateTimeOffset inRange (checkPrecision_mono ?_ checked)
    rw [TimeOfDay.fractionLength, instant.nano_localTime, nano]
    exact timeOf_eq_ok time_read
  | decimal =>
    obtain ⟨d, found, rfl⟩ := decimalLiteralValue_eq_ok converted
    exact stable_decimal (checkFacets_normalize (Numeral.read?_follows read) checked found)
  | floating format =>
    have same := (floatingLiteralValue_self format literal spelling).symm.trans converted
    cases same
    exact stable_floating _
  | duration =>
    obtain ⟨length, found, rfl⟩ := Option.map_eq_some_iff.1 (orMisfit_eq_ok converted)
    obtain ⟨fits, le⟩ := DurationSpelling.toDuration?_eq_some found
    exact stable_duration fits (checkPrecision_mono le checked)
  | guid =>
    obtain ⟨id, rfl⟩ := guidLiteralValue_eq_ok converted
    exact stable_uuid id
  | integer width =>
    have same := (ofInt?_self spelling).symm.trans (orMisfit_eq_ok converted)
    cases same
    exact stable_integer _
  | string =>
    cases converted
    exact stable_string (check_of_spelling rfl checked)
  | timeOfDay =>
    obtain ⟨time, time_read, rfl⟩ := map_eq_ok_iff.1 converted
    exact stable_timeOfDay (checkPrecision_mono (timeOf_eq_ok time_read) checked)

end PrimitiveKind

namespace ScalarType

/-- A literal that is written for a value in range is valid under the facets with which it was
written. -/
theorem validates_of_write (kind : PrimitiveKind) (facets : Facets) (value : Value)
    (literal : String) (inRange : value.InRange)
    (written : (primitive kind).write facets (some value) = .ok (some literal)) :
    (primitive kind).validates facets (some literal) = true := by
  obtain ⟨other, typed, same⟩ := map_eq_ok_iff.1 written
  cases same
  simp only [validates, PrimitiveKind.validates, PrimitiveKind.check_of_write inRange typed]

/-- A minute and a half and half a second, given as a decimal, and midnight where clocks are a whole
day behind. -/
theorem validates_of_write_seconds :
    ((primitive .duration).write { precision := some 1 }
        (some (.decimal ⟨905, 1, by decide, by decide⟩)) = .ok (some "PT1M30.5S") ∧
      (primitive .duration).validates { precision := some 1 } (some "PT1M30.5S") = true) ∧
    (primitive .dateTimeOffset).write { precision := some 0 }
        (some (.dateTimeOffset ⟨86400, 0, -1440, by decide, by decide, by decide⟩)) =
      .ok (some "1970-01-01T00:00:00-24:00") ∧
    (primitive .dateTimeOffset).validates { precision := some 0 }
      (some "1970-01-01T00:00:00-24:00") = true := by
  have seconds_written : (primitive .duration).write { precision := some 1 }
      (some (.decimal ⟨905, 1, by decide, by decide⟩)) = .ok (some "PT1M30.5S") := by rfl
  have instant_written : (primitive .dateTimeOffset).write { precision := some 0 }
      (some (.dateTimeOffset ⟨86400, 0, -1440, by decide, by decide, by decide⟩)) =
        .ok (some "1970-01-01T00:00:00-24:00") := by rfl
  have inRange : Value.InRange
      (.dateTimeOffset ⟨86400, 0, -1440, by decide, by decide, by decide⟩) :=
    show (1440 : Nat) ≤ maxOffset by decide
  exact ⟨⟨seconds_written,
      validates_of_write _ _ (.decimal ⟨905, 1, by decide, by decide⟩) _ trivial seconds_written⟩,
    instant_written, validates_of_write _ _ _ _ inRange instant_written⟩

/-- What is read into the host type of its kind is in range and stable. -/
theorem stable_of_read {kind : PrimitiveKind} {facets : Facets} {literal : Option String}
    {value : Value} (read : (primitive kind).read facets kind.hostType literal = .ok (some value)) :
    kind.Stable facets value := by
  cases literal with
  | none =>
    simp only [ScalarType.read, ofNull] at read
    split at read <;> cases read
  | some literal =>
    obtain ⟨found, typed, same⟩ := map_eq_ok_iff.1 read
    cases same
    obtain ⟨⟨⟩, checked, converted⟩ := bind_eq_ok_iff.1 typed
    obtain ⟨spelling, spelled, kept⟩ := PrimitiveKind.check_eq_ok_iff.1 checked
    rw [PrimitiveKind.valueOf_of_spelling spelled] at converted
    exact PrimitiveKind.stable_of_spelling spelled kept converted

/-- Reading, writing and reading again is stable. A value that is read from a literal of its kind is
written, the new literal is valid, and the same value is read from it. -/
theorem read_write_read (kind : PrimitiveKind) (facets : Facets) (literal : Option String)
    (value : Value)
    (read : (primitive kind).read facets kind.hostType literal = .ok (some value)) :
    ∃ again back, (primitive kind).write facets (some value) = .ok (some again) ∧
      (primitive kind).validates facets (some again) = true ∧
      (primitive kind).read facets kind.hostType (some again) = .ok (some back) ∧
      back.Same value := by
  obtain ⟨inRange, text, back, written, reread, stable⟩ := stable_of_read read
  have passed := PrimitiveKind.check_of_writeText inRange written
  refine ⟨String.ofList text, back, ?_, ?_, ?_, stable⟩
  · simp only [write, PrimitiveKind.write, written, Except.map]
  · simp only [validates, PrimitiveKind.validates, passed]
  · simp only [ScalarType.read, PrimitiveKind.read, passed, reread, bind, Except.bind, Except.map]

/-- Zeros on both sides and a plus sign are lost on the way. -/
theorem read_write_read_padded :
    (primitive .decimal).read { scale := some 1 } .decimal (some "+007.50") =
        .ok (some (.decimal ⟨750, 2, by decide, by decide⟩)) ∧
      ∃ again back, (primitive .decimal).write { scale := some 1 }
          (some (.decimal ⟨750, 2, by decide, by decide⟩)) = .ok (some again) ∧
        (primitive .decimal).validates { scale := some 1 } (some again) = true ∧
        (primitive .decimal).read { scale := some 1 } .decimal (some again) = .ok (some back) ∧
        back.Same (.decimal ⟨750, 2, by decide, by decide⟩) := by
  have read : (primitive .decimal).read { scale := some 1 } .decimal (some "+007.50") =
      .ok (some (.decimal ⟨750, 2, by decide, by decide⟩)) := by rfl
  exact ⟨read, read_write_read .decimal { scale := some 1 } (some "+007.50") _ read⟩

end ScalarType

end EntityModel
