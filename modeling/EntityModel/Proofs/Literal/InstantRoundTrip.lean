import EntityModel.Proofs.Literal.Temporal

/-!
Instants and what local clocks show are two views of the same values: from one the other comes back,
and the literal of an instant stands for both. A precision turns the literal down exactly if no
fraction of so few digits denotes the nanoseconds. One offset beyond a day is let through, the least
number of two octets, and the literal that is written for it cannot be read.
-/

set_option autoImplicit false

namespace EntityModel

open EntityModel.Calendar EntityModel.Text

namespace DateTimeOffset

/-- Some fraction of so many digits or fewer denotes the nanoseconds of an instant. -/
def FitsIn (instant : DateTimeOffset) (places : Nat) : Prop :=
  ∃ digits, Digits digits ∧ digits.length ≤ places ∧
    instant.nanos * 10 ^ digits.length = digitsValue digits * 10 ^ 9

theorem fractionLength_le_iff {instant : DateTimeOffset} {places : Nat} :
    instant.localTime.fractionLength ≤ places ↔ instant.FitsIn places := by
  rw [TimeOfDay.fractionLength, nano_localTime]
  exact length_writeFraction_le_iff instant.nanos_lt

/-- What is made of an instant under facets comes to the same whenever the precision, if there is
one, has room for the nanoseconds, and else it fails for this reason. -/
structure BoundByPrecision {α : Type} (instant : DateTimeOffset)
    (outcome : Facets → Except ConversionError α) (done : α) : Prop where
  free (facets : Facets) : facets.precision = none → outcome facets = .ok done
  fits (facets : Facets) (places : Nat) : facets.precision = some places →
    instant.FitsIn places → outcome facets = .ok done
  tooFine (facets : Facets) (places : Nat) : facets.precision = some places →
    ¬ instant.FitsIn places →
      outcome facets = .error (.tooManyDigits PrimitiveKind.dateTimeOffset.qualifiedName
        instant.localTime.fractionLength places)

end DateTimeOffset

namespace PrimitiveKind

variable {facets : Facets} {places digits : Nat}

theorem checkPrecision_of_none (kind : PrimitiveKind) (free : facets.precision = none)
    (digits : Nat) : kind.checkPrecision facets digits = .ok () := by
  rw [checkPrecision, free, checkLimit]

theorem checkPrecision_of_le (kind : PrimitiveKind) (limited : facets.precision = some places)
    (short : digits ≤ places) : kind.checkPrecision facets digits = .ok () := by
  rw [checkPrecision, limited, checkLimit]
  exact if_neg (Nat.not_lt.2 short)

theorem checkPrecision_of_lt (kind : PrimitiveKind) (limited : facets.precision = some places)
    (long : places < digits) : kind.checkPrecision facets digits =
      .error (.tooManyDigits kind.qualifiedName digits places) := by
  rw [checkPrecision, limited, checkLimit]
  exact if_pos long

end PrimitiveKind

namespace DateTimeOffset

/-- Nothing but the digits of the fraction is checked. -/
theorem boundByPrecision_of_map {α : Type} {instant : DateTimeOffset}
    {outcome : Facets → Except ConversionError α} {done : α}
    (checked : ∀ facets, outcome facets =
      (PrimitiveKind.dateTimeOffset.checkPrecision facets instant.localTime.fractionLength).map
        fun _ => done) : instant.BoundByPrecision outcome done where
  free facets free := by
    rw [checked, PrimitiveKind.checkPrecision_of_none _ free]
    rfl
  fits facets places limited fits := by
    have short := fractionLength_le_iff.2 fits
    rw [checked, PrimitiveKind.checkPrecision_of_le _ limited short]
    rfl
  tooFine facets places limited unfit := by
    have long := Nat.not_le.1 (fractionLength_le_iff.not.2 unfit)
    rw [checked, PrimitiveKind.checkPrecision_of_lt _ limited long]
    rfl

end DateTimeOffset

namespace ScalarType

/-- Only the precision stands between an instant and its literal. -/
theorem write_instant (facets : Facets) (instant : DateTimeOffset) :
    (primitive .dateTimeOffset).write facets (some (.dateTimeOffset instant)) =
      (PrimitiveKind.dateTimeOffset.checkPrecision facets instant.localTime.fractionLength).map
        fun _ => some (String.ofList instant.literal) := by
  rw [write, PrimitiveKind.write, PrimitiveKind.writeText]
  cases PrimitiveKind.dateTimeOffset.checkPrecision facets instant.localTime.fractionLength <;> rfl

/-- The literal is checked with the same digits with which it was written. -/
theorem read_instant {instant : DateTimeOffset} (inRange : instant.InRange) (facets : Facets) :
    (primitive .dateTimeOffset).read facets .dateTimeOffset
        (some (String.ofList instant.literal)) =
      (PrimitiveKind.dateTimeOffset.checkPrecision facets instant.localTime.fractionLength).map
        fun _ => some (.dateTimeOffset instant) := by
  have spelled := PrimitiveKind.spelling?_dateTimeOffset inRange
  have value : PrimitiveKind.dateTimeOffset.valueOf (String.ofList instant.literal)
      .dateTimeOffset = .ok (.dateTimeOffset instant) :=
    (PrimitiveKind.valueOf_of_spelling spelled).trans
      (PrimitiveKind.instantLiteralValue_spelling _ instant)
  have checked : PrimitiveKind.dateTimeOffset.checkFacets facets instant.spelling =
      PrimitiveKind.dateTimeOffset.checkPrecision facets instant.localTime.fractionLength := by
    rw [← instant.localTime.fractionLength_clock]
    rfl
  rw [read, PrimitiveKind.read, PrimitiveKind.check_eq_checkFacets spelled, checked, value]
  cases PrimitiveKind.dateTimeOffset.checkPrecision facets instant.localTime.fractionLength <;> rfl

theorem read_instant_least {instant : DateTimeOffset} (least : instant.offset = -2 ^ 15)
    (facets : Facets) (target : HostType) :
    (primitive .dateTimeOffset).read facets target (some (String.ofList instant.literal)) =
      .error (PrimitiveKind.dateTimeOffset.invalid (String.ofList instant.literal)) := by
  have unread : PrimitiveKind.dateTimeOffset.spelling? (String.ofList instant.literal) = none := by
    rw [PrimitiveKind.spelling?, String.toList_ofList]
    exact DateTimeOffset.read?_literal_least least
  rw [read, PrimitiveKind.read, PrimitiveKind.check, unread]
  rfl

/-- With an offset of a day at most, every local date and time belong to an instant that shows them.
Whatever the offset is, an instant that is let through with it comes back from what its local clocks
show, and it is written unless its nanoseconds do not fit in the digits of a precision. If its offset
is a day at most, it is read back as it was, its offset included, under the same condition. One other
offset is let through, the least number of two octets, and then the literal is refused as none,
whatever the facets and the host type are. -/
theorem instants_round_trip (offset : Int) :
    (offset.natAbs ≤ 1440 → ∀ (day : Date) (time : TimeOfDay),
      ∃ instant, DateTimeOffset.ofLocal? day time offset = some instant ∧
        instant.localDate = day ∧ instant.localTime = time ∧ instant.offset = offset) ∧
    ∀ (epochSeconds : Int) (nanos : Nat) (instant : DateTimeOffset),
      DateTimeOffset.ofParts? epochSeconds nanos offset = some instant →
      DateTimeOffset.ofLocal? instant.localDate instant.localTime offset = some instant ∧
      ∃ literal,
        instant.BoundByPrecision
          (fun facets => (primitive .dateTimeOffset).write facets (some (.dateTimeOffset instant)))
          (some literal) ∧
        if offset = -2 ^ 15 then
          ∀ (facets : Facets) (target : HostType),
            (primitive .dateTimeOffset).read facets target (some literal) =
              .error (PrimitiveKind.dateTimeOffset.invalid literal)
        else
          offset.natAbs ≤ 1440 ∧
          instant.BoundByPrecision
            (fun facets => (primitive .dateTimeOffset).read facets .dateTimeOffset (some literal))
            (some (.dateTimeOffset instant)) := by
  refine ⟨fun small day time => DateTimeOffset.exists_ofLocal? day time small, ?_⟩
  intro epochSeconds nanos instant built
  obtain ⟨-, rfl⟩ := DateTimeOffset.ofParts?_eq_some built
  refine ⟨instant.ofLocal?_local, String.ofList instant.literal,
    DateTimeOffset.boundByPrecision_of_map (write_instant · instant), ?_⟩
  split
  · next least => exact read_instant_least least
  · next other =>
    have inRange := instant.inRange_or_least.resolve_right other
    exact ⟨inRange, DateTimeOffset.boundByPrecision_of_map (read_instant inRange)⟩

/-- The last nanosecond of the first day, where clocks are a whole day ahead: in universal time it is
still the day before the first. Nine digits are needed for it. -/
theorem instants_round_trip_first_day :
    (∃ instant, DateTimeOffset.ofLocal? ⟨-365961662, by decide⟩ ⟨86399999999999, by decide⟩ 1440 =
        some instant ∧ instant.localDate = ⟨-365961662, by decide⟩ ∧
      instant.localTime = ⟨86399999999999, by decide⟩ ∧ instant.offset = 1440) ∧
    ∃ literal,
      (primitive .dateTimeOffset).read .empty .dateTimeOffset (some literal) =
        .ok (some (.dateTimeOffset
          ⟨-31619087596801, 999999999, 1440, by decide, by decide, by decide⟩)) ∧
      (primitive .dateTimeOffset).write { precision := some 9 } (some (.dateTimeOffset
        ⟨-31619087596801, 999999999, 1440, by decide, by decide, by decide⟩)) =
          .ok (some literal) ∧
      (primitive .dateTimeOffset).write { precision := some 8 } (some (.dateTimeOffset
        ⟨-31619087596801, 999999999, 1440, by decide, by decide, by decide⟩)) =
          .error (.tooManyDigits (.primitive "DateTimeOffset") 9 8) := by
  obtain ⟨shown, back⟩ := instants_round_trip 1440
  have built : DateTimeOffset.ofParts? (-31619087596801) 999999999 1440 =
      some ⟨-31619087596801, 999999999, 1440, by decide, by decide, by decide⟩ := by decide
  obtain ⟨-, literal, written, -, read⟩ := back _ _ _ built
  refine ⟨shown (by decide) _ _, literal, read.free .empty rfl, ?_, ?_⟩
  · exact written.fits { precision := some 9 } 9 rfl
      (DateTimeOffset.fractionLength_le_iff.1 (by decide))
  · exact written.tooFine { precision := some 8 } 8 rfl
      (DateTimeOffset.fractionLength_le_iff.not.1 (by decide))

/-- The first second of universal time with the least offset is let through and written, and its
literal is refused. -/
theorem least_offset_unread :
    ∃ instant, DateTimeOffset.ofParts? 0 0 (-2 ^ 15) = some instant ∧
      (primitive .dateTimeOffset).write .empty (some (.dateTimeOffset instant)) =
        .ok (some "1969-12-09T05:52:00--546:-8") ∧
      (primitive .dateTimeOffset).read .empty .dateTimeOffset
          (some "1969-12-09T05:52:00--546:-8") =
        .error (.invalidLiteral (.primitive "DateTimeOffset") "1969-12-09T05:52:00--546:-8") :=
  ⟨⟨0, 0, -2 ^ 15, by decide, by decide, by decide⟩, by decide, by rfl, by rfl⟩

end ScalarType

end EntityModel
