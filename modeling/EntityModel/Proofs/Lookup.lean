import Mathlib.Data.List.Nodup

/-!
Looking for an entry by its key. Where keys differ, what is found under a key is the one entry with
that key. Looking for an entry with any other property finds the first one.
-/

set_option autoImplicit false

namespace EntityModel

variable {α β κ : Type} [DecidableEq κ]

/-- A key is there exactly if something is found under it. -/
theorem mem_keys_iff {entries : List (κ × α)} {key : κ} :
    key ∈ entries.map Prod.fst ↔ entries.lookup key ≠ none := by
  rw [Ne, List.lookup_eq_none_iff, List.mem_map]
  constructor
  · rintro ⟨entry, mem, rfl⟩ apart
    simpa using apart entry mem
  · intro present
    obtain ⟨entry, found⟩ := Classical.not_forall.1 present
    obtain ⟨mem, same⟩ := Classical.not_imp.1 found
    exact ⟨entry, mem, (by simpa using same : key = entry.1).symm⟩

theorem find?_key_eq_some_iff {key : α → κ} {entries : List α} (distinct : (entries.map key).Nodup)
    {sought : κ} {entry : α} :
    entries.find? (fun other => key other == sought) = some entry ↔
      entry ∈ entries ∧ key entry = sought := by
  constructor
  · intro found
    exact ⟨List.mem_of_find?_eq_some found, by simpa using List.find?_some found⟩
  · rintro ⟨mem, rfl⟩
    cases found : entries.find? (fun other => key other == key entry) with
    | none => simpa using List.find?_eq_none.1 found entry mem
    | some other =>
      have same : key other = key entry := by simpa using List.find?_some found
      rw [List.inj_on_of_nodup_map distinct (List.mem_of_find?_eq_some found) mem same]

/-- The first entry of a list with a property. -/
def IsFirst (holds : α → Prop) (entries : List α) (entry : α) : Prop :=
  ∃ before after, entries = before ++ entry :: after ∧ holds entry ∧
    ∀ earlier ∈ before, ¬ holds earlier

theorem find?_eq_some_iff_isFirst {test : α → Bool} {entries : List α} {entry : α} :
    entries.find? test = some entry ↔ IsFirst (fun other => test other = true) entries entry := by
  simp only [IsFirst, List.find?_eq_some_iff_append, Bool.not_eq_true, Bool.not_eq_eq_eq_not,
    Bool.not_true]
  constructor
  · rintro ⟨found, before, after, split, others⟩
    exact ⟨before, after, split, found, others⟩
  · rintro ⟨before, after, split, found, others⟩
    exact ⟨found, before, after, split, others⟩

theorem findSome?_eq_some_iff_isFirst {f : α → Option β} {entries : List α} {b : β} :
    entries.findSome? f = some b ↔
      ∃ entry, IsFirst (fun other => f other ≠ none) entries entry ∧ f entry = some b := by
  simp only [IsFirst, List.findSome?_eq_some_iff, ne_eq, not_not]
  constructor
  · rintro ⟨before, entry, after, split, found, others⟩
    exact ⟨entry, ⟨before, after, split, by simp [found], others⟩, found⟩
  · rintro ⟨entry, ⟨before, after, split, -, others⟩, found⟩
    exact ⟨before, entry, after, split, found, others⟩

end EntityModel
