import EntityModel.Proofs.Lookup
import EntityModel.Proofs.Outcome
import EntityModel.Proofs.Text.Digits
import EntityModel.Version

/-!
Version texts. A relation says which texts stand for a number, with or without a tag after it.
Naming a version, checking that it is supported and comparing it with another one go different ways
through the text and agree on every text, errors included. A tag on the line of its number is never
looked at.
-/

set_option autoImplicit false

namespace EntityModel

open EntityModel.Text

/-- A tag follows a semicolon and stays on its line, or is left out together with the semicolon. -/
inductive TagText : List Char → Prop where
  | omitted : TagText []
  | tag {tag : List Char} : '\n' ∉ tag → TagText (';' :: tag)

namespace VersionNumber

/-- A number as it is written, without a tag. -/
def text (number : VersionNumber) : List Char := number.major ++ '.' :: number.minor

/-- There are digits on both sides of the dot, and nothing else. -/
structure HasDigits (number : VersionNumber) : Prop where
  major : Digits number.major
  major_filled : number.major ≠ []
  minor : Digits number.minor
  minor_filled : number.minor ≠ []

/-- The texts of a version: its number, and perhaps a tag. -/
inductive WrittenAs (number : VersionNumber) : List Char → Prop where
  | intro {tag : List Char} : number.HasDigits → TagText tag → WrittenAs number (number.text ++ tag)

end VersionNumber

/-- The number of a supported version. -/
def ProtocolVersion.number : ProtocolVersion → VersionNumber
  | v10 => ⟨['1'], ['0']⟩
  | v20 => ⟨['2'], ['0']⟩
  | v30 => ⟨['3'], ['0']⟩
  | v40 => ⟨['4'], ['0']⟩

/-- What a text names: a supported version, some other version, or none. -/
inductive Names (version : String) : Except VersionError ProtocolVersion → Prop where
  | supported {v : ProtocolVersion} : v.number.WrittenAs version.toList → Names version (.ok v)
  | unsupported {number : VersionNumber} : number.WrittenAs version.toList →
      (∀ v : ProtocolVersion, v.number ≠ number) → Names version (.error (.unsupported version))
  | malformed : (∀ number : VersionNumber, ¬ number.WrittenAs version.toList) →
      Names version (.error (.malformed version))

variable {text tag : List Char} {number : VersionNumber} {version : String}

section Tags

theorem tagText_cons_iff {c : Char} : TagText (c :: tag) ↔ c = ';' ∧ '\n' ∉ tag := by
  constructor
  · intro written
    cases written with
    | tag oneLine => exact ⟨rfl, oneLine⟩
  · rintro ⟨rfl, oneLine⟩
    exact .tag oneLine

/-- What follows a tag belongs to it. -/
theorem tagText_append_iff : TagText (text ++ ';' :: tag) ↔ TagText text ∧ '\n' ∉ tag := by
  cases text with
  | nil => simp [tagText_cons_iff, TagText.omitted]
  | cons c text => simp [tagText_cons_iff, and_assoc]

theorem TagText.breaks (written : TagText tag) : Breaks tag := by
  cases written with
  | omitted => exact breaks_nil
  | tag => exact breaks_cons rfl _

theorem TagText.takeWhile (written : TagText tag) : tag.takeWhile (· ≠ ';') = [] := by
  cases written <;> rfl

theorem VersionNumber.isTag_iff : isTag tag = true ↔ TagText tag := by
  cases tag with
  | nil => exact iff_of_true rfl .omitted
  | cons c tag =>
    simp only [isTag, tagText_cons_iff, Bool.and_eq_true, beq_iff_eq, List.all_eq_true,
      decide_eq_true_eq, and_congr_right_iff]
    exact fun _ =>
      ⟨fun others mem => others _ mem rfl, fun absent c mem same => absent (same ▸ mem)⟩

end Tags

namespace VersionNumber

section Reading

theorem HasDigits.ne_semicolon (digits : number.HasDigits) : ∀ c ∈ number.text, c ≠ ';' := by
  rintro c mem rfl
  rcases List.mem_append.1 mem with mem | mem
  · exact absurd (digits.major _ mem) (by decide)
  · rcases List.mem_cons.1 mem with same | mem
    · exact absurd same (by decide)
    · exact absurd (digits.minor _ mem) (by decide)

theorem WrittenAs.read (written : number.WrittenAs text) : read? text = some number := by
  cases written with
  | @intro tag digits tagged =>
    have dot : Breaks ('.' :: (number.minor ++ tag)) := breaks_cons rfl _
    rw [VersionNumber.text, List.append_assoc, List.cons_append]
    simp only [read?, digits.major.takeWhile_append dot, digits.major.dropWhile_append dot,
      readChar?_cons, digits.minor.takeWhile_append tagged.breaks,
      digits.minor.dropWhile_append tagged.breaks]
    exact if_pos ⟨digits.major_filled, digits.minor_filled, isTag_iff.2 tagged⟩

/-- The number of a text is read exactly if the text stands for it. -/
theorem read?_eq_some_iff : read? text = some number ↔ number.WrittenAs text := by
  refine ⟨fun read => ?_, WrittenAs.read⟩
  unfold read? at read
  dsimp only at read
  split at read
  · cases read
  · next rest dotted =>
    obtain ⟨⟨major_filled, minor_filled, tagged⟩, same⟩ := Option.ite_none_right_eq_some.1 read
    have whole : number.text ++ rest.dropWhile Char.isDigit = text := by
      rw [← Option.some.inj same, VersionNumber.text, List.append_assoc, List.cons_append,
        List.takeWhile_append_dropWhile, ← readChar?_eq_some_iff.1 dotted,
        List.takeWhile_append_dropWhile]
    rw [← whole]
    refine .intro ?_ (isTag_iff.1 tagged)
    cases same
    exact ⟨digits_takeWhile _, major_filled, digits_takeWhile _, minor_filled⟩

theorem WrittenAs.unique {other : VersionNumber} (one : number.WrittenAs text)
    (another : other.WrittenAs text) : number = other :=
  Option.some.inj (one.read.symm.trans another.read)

/-- Another tag at the end says no more than that the text goes on along its line. -/
theorem writtenAs_append_iff :
    number.WrittenAs (text ++ ';' :: tag) ↔ number.WrittenAs text ∧ '\n' ∉ tag := by
  constructor
  · intro written
    generalize whole : text ++ ';' :: tag = all at written
    cases written with
    | @intro rest digits tagged =>
      rcases List.append_eq_append_iff.1 whole with ⟨front, inside, after⟩ | ⟨first, rfl, rfl⟩
      · -- The number has no semicolon, so it ends before the one that follows the text.
        cases front with
        | nil =>
          rw [List.nil_append] at after
          rw [← after, tagText_cons_iff] at tagged
          rw [List.append_nil] at inside
          rw [← inside, ← List.append_nil number.text]
          exact ⟨.intro digits .omitted, tagged.2⟩
        | cons c front =>
          rw [List.cons_append, List.cons.injEq] at after
          refine absurd after.1.symm (digits.ne_semicolon c ?_)
          rw [inside]
          exact List.mem_append_right _ List.mem_cons_self
      · obtain ⟨first, oneLine⟩ := tagText_append_iff.1 tagged
        exact ⟨.intro digits first, oneLine⟩
  · rintro ⟨⟨digits, tagged⟩, oneLine⟩
    rw [List.append_assoc]
    exact .intro digits (tagText_append_iff.2 ⟨tagged, oneLine⟩)

theorem WrittenAs.hasDigits (written : number.WrittenAs text) : number.HasDigits := by
  cases written with
  | intro digits => exact digits

/-- What stands before the first semicolon is the number. -/
theorem WrittenAs.untagged (written : number.WrittenAs version.toList) :
    untagged version = String.ofList number.text := by
  rw [EntityModel.untagged]
  generalize version.toList = text at written
  obtain ⟨digits, tagged⟩ := written
  rw [List.takeWhile_append_of_pos (fun c mem => by simpa using digits.ne_semicolon c mem),
    tagged.takeWhile, List.append_nil]

end Reading

end VersionNumber

theorem numberText_of_writtenAs (written : number.WrittenAs version.toList) :
    numberText version = .ok (String.ofList number.text) := by
  rw [numberText, written.read, ← written.untagged]

theorem numberText_of_malformed (unwritten : ∀ number : VersionNumber,
    ¬ number.WrittenAs version.toList) : numberText version = .error (.malformed version) := by
  have read : VersionNumber.read? version.toList = none :=
    Option.eq_none_iff_forall_ne_some.2 fun number found =>
      unwritten number (VersionNumber.read?_eq_some_iff.1 found)
  rw [numberText, read]

namespace ProtocolVersion

variable {v w : ProtocolVersion}

theorem text_number (v : ProtocolVersion) : v.text = String.ofList v.number.text := by
  cases v <;> rfl

theorem number_fits (v : ProtocolVersion) : v.number.Fits := by
  cases v <;> decide

theorem hasDigits_number (v : ProtocolVersion) : v.number.HasDigits := by
  cases v <;> exact ⟨by simp [number], by decide, by simp [number], by decide⟩

theorem mem_all (v : ProtocolVersion) : v ∈ all := by
  cases v <;> decide

/-- The numbers of the supported versions are ordered as the versions are. -/
theorem less_number_iff : w.number.Less v.number ↔ (compare v w).isGT = true := by
  cases v <;> cases w <;> decide

/-- A number is spelled like a supported version if it is the number of this version. -/
theorem text_eq_iff (digits : number.HasDigits) :
    v.text = String.ofList number.text ↔ v.number = number := by
  rw [text_number]
  constructor
  · intro same
    have written : v.number.WrittenAs (v.number.text ++ []) := .intro v.hasDigits_number .omitted
    rw [String.ofList_injective same] at written
    exact written.unique (.intro digits .omitted)
  · rintro rfl
    rfl

/-- The only version that can be found by a number is the one with this number. -/
theorem find?_text_eq_some_iff (digits : number.HasDigits) :
    all.find? (·.text == String.ofList number.text) = some v ↔ v.number = number :=
  (find?_key_eq_some_iff (by decide)).trans <|
    (and_iff_right v.mem_all).trans (text_eq_iff digits)

theorem any_text_iff (digits : number.HasDigits) :
    all.any (·.text == String.ofList number.text) = true ↔
      ∃ v : ProtocolVersion, v.number = number := by
  simp only [List.any_eq_true, beq_iff_eq, text_eq_iff digits, mem_all, true_and]

end ProtocolVersion

namespace Names

open ProtocolVersion

variable {outcome : Except VersionError ProtocolVersion}

/-- Every text names something or nothing. -/
theorem exists_names (version : String) : ∃ outcome, Names version outcome := by
  cases read : VersionNumber.read? version.toList with
  | none =>
    refine ⟨_, .malformed fun number written => ?_⟩
    cases read.symm.trans written.read
  | some number =>
    have written := VersionNumber.read?_eq_some_iff.1 read
    by_cases named : ∃ v : ProtocolVersion, v.number = number
    · obtain ⟨v, rfl⟩ := named
      exact ⟨_, .supported written⟩
    · exact ⟨_, .unsupported written (not_exists.1 named)⟩

theorem ofText_eq (names : Names version outcome) : ofText version = outcome := by
  cases names with
  | @supported v written =>
    simp only [ofText, numberText_of_writtenAs written,
      (find?_text_eq_some_iff v.hasDigits_number).2 (rfl : v.number = v.number)]
  | @unsupported number written other =>
    have unfound : all.find? (·.text == String.ofList number.text) = none :=
      Option.eq_none_iff_forall_ne_some.2 fun v found =>
        other v ((find?_text_eq_some_iff written.hasDigits).1 found)
    simp only [ofText, numberText_of_writtenAs written, unfound]
  | malformed unwritten => simp only [ofText, numberText_of_malformed unwritten]

/-- Whether a text is supported is told by what it names. -/
theorem isSupported_eq (names : Names version outcome) :
    isSupported version = match outcome with
      | .ok _ => .ok true
      | .error (.unsupported _) => .ok false
      | .error (.malformed version) => .error (.malformed version) := by
  cases names with
  | @supported v written =>
    rw [isSupported, numberText_of_writtenAs written]
    exact congrArg Except.ok ((any_text_iff v.hasDigits_number).2 ⟨v, rfl⟩)
  | @unsupported number written other =>
    rw [isSupported, numberText_of_writtenAs written]
    refine congrArg Except.ok (Bool.eq_false_iff.2 fun found => ?_)
    obtain ⟨v, same⟩ := (any_text_iff written.hasDigits).1 found
    exact other v same
  | malformed unwritten =>
    rw [isSupported, numberText_of_malformed unwritten]
    rfl

/-- The number that is compared is the number of the version that the text names. -/
theorem supportedNumber_eq (names : Names version outcome) :
    supportedNumber version = outcome.map ProtocolVersion.number := by
  rw [supportedNumber, names.isSupported_eq]
  cases names with
  | @supported v written =>
    -- A number of any length would be read, but this one is known to be short.
    dsimp only
    rw [written.read]
    exact if_pos v.number_fits
  | unsupported => rfl
  | malformed => rfl

end Names

/-- A text names a supported version if it is written like this version. -/
theorem ProtocolVersion.ofText_eq_ok_iff {v : ProtocolVersion} :
    ofText version = .ok v ↔ v.number.WrittenAs version.toList := by
  obtain ⟨outcome, names⟩ := Names.exists_names version
  rw [names.ofText_eq]
  constructor
  · rintro rfl
    cases names with
    | supported written => exact written
  · intro written
    exact names.ofText_eq.symm.trans (Names.supported written).ofText_eq

/-- The check for support tells for every text that stands for a number whether the number is that
of a supported version. -/
theorem isSupported_eq_ok_iff {known : Bool} :
    isSupported version = .ok known ↔ ∃ number : VersionNumber,
      number.WrittenAs version.toList ∧
        (known = true ↔ ∃ v : ProtocolVersion, v.number = number) := by
  obtain ⟨outcome, names⟩ := Names.exists_names version
  rw [names.isSupported_eq]
  constructor
  · intro answer
    cases names with
    | @supported v written =>
      cases answer
      exact ⟨_, written, by simp⟩
    | @unsupported number written other =>
      cases answer
      exact ⟨_, written, by simpa using other⟩
    | malformed => cases answer
  · rintro ⟨number, written, knows⟩
    cases names with
    | @supported v named =>
      rw [knows.2 ⟨v, named.unique written⟩]
    | @unsupported other named unknown =>
      rw [named.unique written, ← not_exists, ← knows, Bool.not_eq_true] at unknown
      rw [unknown]
    | malformed unwritten => exact absurd written (unwritten number)

/-- Comparing two texts is naming both, the first one first, and comparing the versions. -/
theorem isLater_eq (version other : String) :
    isLater version other = (do
      let first ← ProtocolVersion.ofText version
      let second ← ProtocolVersion.ofText other
      return (compare first second).isGT) := by
  obtain ⟨one, one_named⟩ := Names.exists_names version
  obtain ⟨another, another_named⟩ := Names.exists_names other
  rw [isLater, one_named.supportedNumber_eq, another_named.supportedNumber_eq, one_named.ofText_eq,
    another_named.ofText_eq]
  cases one with
  | error reason => rfl
  | ok v =>
    cases another with
    | error reason => rfl
    | ok w =>
      refine congrArg Except.ok ?_
      simp only [ProtocolVersion.less_number_iff, Bool.decide_eq_true]

/-- A text is refused by the check for support exactly if it stands for no number. -/
theorem isSupported_eq_malformed_iff :
    isSupported version = .error (.malformed version) ↔
      ¬ ∃ number : VersionNumber, number.WrittenAs version.toList := by
  obtain ⟨outcome, names⟩ := Names.exists_names version
  rw [names.isSupported_eq]
  cases names with
  | supported written => simpa using ⟨_, written⟩
  | unsupported written => simpa using ⟨_, written⟩
  | malformed unwritten => simpa using unwritten

/-- Naming a version, checking that it is supported and comparing it with another one agree on every
text. A comparison reports what is wrong with the first text before it looks at the second one, and
a text is malformed exactly if it stands for no number. -/
theorem versions_agree (a b : String) :
    Names a (ProtocolVersion.ofText a) ∧
    (isSupported a = .ok true ↔ ∃ v, ProtocolVersion.ofText a = .ok v) ∧
    (isSupported a = .ok false ↔ ProtocolVersion.ofText a = .error (.unsupported a)) ∧
    (isSupported a = .error (.malformed a) ↔
      ProtocolVersion.ofText a = .error (.malformed a)) ∧
    (isSupported a = .error (.malformed a) ↔
      ¬ ∃ number : VersionNumber, number.WrittenAs a.toList) ∧
    isLater a b = (do
      let first ← ProtocolVersion.ofText a
      let second ← ProtocolVersion.ofText b
      return (compare first second).isGT) := by
  obtain ⟨outcome, names⟩ := Names.exists_names a
  have named := names.ofText_eq
  have answered := names.isSupported_eq
  refine ⟨named ▸ names, ?_, ?_, ?_, isSupported_eq_malformed_iff, isLater_eq a b⟩
  -- What the text names settles the three answers about it.
  all_goals
    rw [named, answered]
    cases names <;> simp

section TwoTexts

theorem toList_tagged (v t : String) : (v ++ ";" ++ t).toList = v.toList ++ ';' :: t.toList := by
  simp

theorem toOption_ofText_tagged (v t : String) :
    (ProtocolVersion.ofText (v ++ ";" ++ t)).toOption =
      if '\n' ∈ t.toList then none else (ProtocolVersion.ofText v).toOption := by
  ext known
  simp only [toOption_eq_some_iff, ProtocolVersion.ofText_eq_ok_iff, toList_tagged,
    VersionNumber.writtenAs_append_iff, Option.ite_none_left_eq_some, and_comm]

theorem toOption_isLater (version other : String) :
    (isLater version other).toOption = do
      let first ← (ProtocolVersion.ofText version).toOption
      let second ← (ProtocolVersion.ofText other).toOption
      return (compare first second).isGT := by
  rw [isLater_eq]
  cases ProtocolVersion.ofText version with
  | error reason => rfl
  | ok first => cases ProtocolVersion.ofText other <;> rfl

end TwoTexts

/-- A tag that stays on its line changes no answer, and with any other there are errors only. -/
theorem tag_on_one_line (v t : String) :
    (isSupported (v ++ ";" ++ t)).toOption =
      (if '\n' ∈ t.toList then none else (isSupported v).toOption) ∧
    (ProtocolVersion.ofText (v ++ ";" ++ t)).toOption =
      (if '\n' ∈ t.toList then none else (ProtocolVersion.ofText v).toOption) ∧
    ∀ other,
      (isLater (v ++ ";" ++ t) other).toOption =
        (if '\n' ∈ t.toList then none else (isLater v other).toOption) ∧
      (isLater other (v ++ ";" ++ t)).toOption =
        (if '\n' ∈ t.toList then none else (isLater other v).toOption) := by
  refine ⟨?_, toOption_ofText_tagged v t, fun other => ⟨?_, ?_⟩⟩
  · ext known
    simp only [toOption_eq_some_iff, isSupported_eq_ok_iff, toList_tagged,
      VersionNumber.writtenAs_append_iff, Option.ite_none_left_eq_some, and_assoc, and_left_comm,
      exists_and_left]
  · rw [toOption_isLater, toOption_isLater, toOption_ofText_tagged]
    split <;> rfl
  · rw [toOption_isLater, toOption_isLater, toOption_ofText_tagged]
    split
    · cases ProtocolVersion.ofText other <;> rfl
    · rfl

/-- A tag that goes on in a second line is looked at. -/
theorem tag_of_two_lines_refused :
    ¬ ∀ v t : String, (isSupported (v ++ ";" ++ t)).toOption = (isSupported v).toOption := by
  intro same
  have refused : (isSupported ("4.0" ++ ";" ++ "\n")).toOption = none := by rfl
  have supported : (isSupported "4.0").toOption = some true := by rfl
  cases refused.symm.trans ((same "4.0" "\n").trans supported)

end EntityModel
