import EntityModel.Proofs.Registry.Derivation

/-!
Walks along base types, exactly. A walk goes from base name to base name and ends at a type without
a base type or at the first name that it cannot go past, and this name alone decides which error it
gives. It resolves no name twice and no more names than a type may have base types. Nothing else
that a provider declares matters to it, so it ends even where base names never do.
-/

set_option autoImplicit false

namespace EntityModel

namespace Provider

variable {provider : Provider} {origin : StructuredType} {category : StructuredCategory}
  {seen : List QualifiedName} {room : Nat} {next : QualifiedName} {reason : SchemaError}

/-- `Climbs category start met rest`: from the name `start` on, base names stand for the types
`met`, nearest first and all of one category, and `rest` is the base name of the last one. -/
inductive Climbs (provider : Provider) (category : StructuredCategory) :
    Option QualifiedName → List StructuredType → Option QualifiedName → Prop where
  | here (rest : Option QualifiedName) : Climbs provider category rest [] rest
  | up {next : QualifiedName} {type : StructuredType} {met : List StructuredType}
      {rest : Option QualifiedName} :
      provider.resolve next = .ok (some (.structured type)) → type.category = category →
      Climbs provider category type.baseType met rest →
      Climbs provider category (some next) (type :: met) rest

/-- Why a walk from `origin` does not go past a base name, after it has seen other names and with
room for so many base types. Whether the name stands for anything is only asked if it is new and
there is room for it. -/
inductive Obstacle (provider : Provider) (origin : StructuredType) (seen : List QualifiedName)
    (room : Nat) (next : QualifiedName) : SchemaError → Prop where
  | circular : next ∈ seen ∨ room = 0 →
      Obstacle provider origin seen room next (.cyclicBases origin.name)
  | unresolved {reason : SchemaError} : next ∉ seen → room ≠ 0 →
      provider.resolve next = .error reason → Obstacle provider origin seen room next reason
  | unsuitable {found : Option ModelType} : next ∉ seen → room ≠ 0 →
      provider.resolve next = .ok found →
      (∀ type, found = some (.structured type) → type.category ≠ origin.category) →
      Obstacle provider origin seen room next (.undeclared next .baseType)

theorem Obstacle.congr {seen' : List QualifiedName} (same : ∀ name, name ∈ seen ↔ name ∈ seen')
    (obstacle : provider.Obstacle origin seen room next reason) :
    provider.Obstacle origin seen' room next reason := by
  cases obstacle with
  | circular ends => exact .circular (by rwa [← same])
  | unresolved fresh space failed => exact .unresolved (by rwa [← same]) space failed
  | unsuitable fresh space found other => exact .unsuitable (by rwa [← same]) space found other

section Steps

theorem resolveStructured_eq_some_iff {type : StructuredType} :
    provider.resolveStructured category next = .ok (some type) ↔
      provider.resolve next = .ok (some (.structured type)) ∧ type.category = category := by
  constructor
  · intro found
    obtain ⟨outcome, resolved, bound⟩ := map_eq_ok_iff.1 found
    obtain ⟨_, rfl, structured⟩ := Option.bind_eq_some_iff.1 bound
    obtain ⟨rfl, same⟩ := ModelType.structured?_eq_some structured
    exact ⟨resolved, same⟩
  · rintro ⟨resolved, rfl⟩
    simp [resolveStructured, resolved, Except.map, ModelType.structured?]

theorem resolveStructured_eq_none {found : Option ModelType}
    (resolved : provider.resolve next = .ok found)
    (other : ∀ type, found = some (.structured type) → type.category ≠ category) :
    provider.resolveStructured category next = .ok none := by
  cases outcome : provider.resolveStructured category next with
  | error reason =>
    rw [resolveStructured, map_eq_error_iff, resolved] at outcome
    cases outcome
  | ok base =>
    cases base with
    | none => rfl
    | some type =>
      obtain ⟨again, same⟩ := resolveStructured_eq_some_iff.1 outcome
      rw [resolved] at again
      exact absurd same (other type (Except.ok.inj again))

theorem climbs_iff_ascends (start : Option QualifiedName) (bases : List StructuredType) :
    provider.Climbs category start bases none ↔ provider.Ascends category start bases := by
  constructor
  · intro climb
    generalize ends : (none : Option QualifiedName) = rest at climb
    induction climb with
    | here rest =>
      subst ends
      exact .root
    | up resolved same _ ih =>
      exact .above (resolveStructured_eq_some_iff.2 ⟨resolved, same⟩) (ih ends)
  · intro ascent
    induction ascent with
    | root => exact .here none
    | above found _ ih =>
      obtain ⟨resolved, same⟩ := resolveStructured_eq_some_iff.1 found
      exact .up resolved same ih

/-- One step of a walk: it ends at the name, or goes on from the base name of what this stands
for. -/
theorem basesFrom_some (provider : Provider) (origin : StructuredType) (room : Nat)
    (seen : List QualifiedName) (next : QualifiedName) :
    (∃ reason, provider.Obstacle origin seen room next reason ∧
      provider.basesFrom origin room seen (some next) = .error reason) ∨
    ∃ less type, room = less + 1 ∧ next ∉ seen ∧
      provider.resolve next = .ok (some (.structured type)) ∧ type.category = origin.category ∧
      provider.basesFrom origin room seen (some next) =
        (provider.basesFrom origin less (next :: seen) type.baseType).map (type :: ·) := by
  cases room with
  | zero => exact .inl ⟨_, .circular (.inr rfl), rfl⟩
  | succ less =>
    rw [basesFrom]
    by_cases old : next ∈ seen
    · rw [if_pos old]
      exact .inl ⟨_, .circular (.inl old), rfl⟩
    rw [if_neg old]
    cases found : provider.resolveStructured origin.category next with
    | error reason =>
      have failed := map_eq_error_iff.1 found
      exact .inl ⟨reason, .unresolved old (Nat.succ_ne_zero less) failed, rfl⟩
    | ok base =>
      cases base with
      | some type =>
        obtain ⟨resolved, same⟩ := resolveStructured_eq_some_iff.1 found
        exact .inr ⟨less, type, rfl, old, resolved, same, rfl⟩
      | none =>
        obtain ⟨outcome, resolved, bound⟩ := map_eq_ok_iff.1 found
        refine .inl ⟨_, .unsuitable old (Nat.succ_ne_zero less) resolved ?_, rfl⟩
        rintro type rfl same
        simp [ModelType.structured?, same] at bound

theorem basesFrom_of_obstacle (obstacle : provider.Obstacle origin seen room next reason) :
    provider.basesFrom origin room seen (some next) = .error reason := by
  cases room with
  | zero =>
    cases obstacle with
    | circular => rfl
    | unresolved _ space | unsuitable _ space => exact absurd rfl space
  | succ less =>
    rw [basesFrom]
    cases obstacle with
    | circular ends => rw [if_pos (ends.resolve_right (Nat.succ_ne_zero less))]
    | unresolved fresh _ failed =>
      rw [if_neg fresh, resolveStructured, failed]
      rfl
    | unsuitable fresh _ found other => rw [if_neg fresh, resolveStructured_eq_none found other]

theorem basesFrom_of_resolve {type : StructuredType} (fresh : next ∉ seen)
    (resolved : provider.resolve next = .ok (some (.structured type)))
    (same : type.category = origin.category) :
    provider.basesFrom origin (room + 1) seen (some next) =
      (provider.basesFrom origin room (next :: seen) type.baseType).map (type :: ·) := by
  rw [basesFrom, if_neg fresh, resolveStructured_eq_some_iff.2 ⟨resolved, same⟩]

end Steps

section Ends

/-- A stretch of a walk: it climbs without seeing a name again and has room for what it meets. -/
structure Stretch (provider : Provider) (origin : StructuredType) (room : Nat)
    (seen : List QualifiedName) (start : Option QualifiedName) (met : List StructuredType)
    (rest : Option QualifiedName) : Prop where
  climbs : provider.Climbs origin.category start met rest
  short : met.length ≤ room
  distinct : (met.map StructuredType.name).Nodup
  unseen : ∀ type ∈ met, type.name ∉ seen

variable {start rest : Option QualifiedName} {met : List StructuredType} {type : StructuredType}

theorem Stretch.here (origin : StructuredType) (room : Nat) (seen : List QualifiedName)
    (rest : Option QualifiedName) : provider.Stretch origin room seen rest [] rest :=
  ⟨.here rest, Nat.zero_le room, List.nodup_nil, by simp⟩

theorem Stretch.up (fresh : next ∉ seen)
    (resolved : provider.resolve next = .ok (some (.structured type)))
    (same : type.category = origin.category)
    (stretch : provider.Stretch origin room (next :: seen) type.baseType met rest) :
    provider.Stretch origin (room + 1) seen (some next) (type :: met) rest := by
  have named := (resolve_structured resolved).1
  constructor
  · exact .up resolved same stretch.climbs
  · exact Nat.succ_le_succ stretch.short
  · rw [List.map_cons, List.nodup_cons, List.mem_map, named]
    refine ⟨?_, stretch.distinct⟩
    rintro ⟨other, mem, again⟩
    exact stretch.unseen other mem (again ▸ List.mem_cons_self)
  · rw [List.forall_mem_cons, named]
    exact ⟨fresh, fun other mem old => stretch.unseen other mem (List.mem_cons_of_mem next old)⟩

/-- What a stretch meets first is what its first name stands for. -/
theorem Stretch.down (stretch : provider.Stretch origin room seen start (type :: met) rest) :
    ∃ less, room = less + 1 ∧ start = some type.name ∧ type.name ∉ seen ∧
      provider.resolve type.name = .ok (some (.structured type)) ∧
      type.category = origin.category ∧
      provider.Stretch origin less (type.name :: seen) type.baseType met rest := by
  obtain ⟨climbs, short, distinct, unseen⟩ := stretch
  cases room with
  | zero => simp at short
  | succ less =>
  cases climbs with
  | up resolved same climbs =>
  obtain rfl := (resolve_structured resolved).1
  rw [List.map_cons, List.nodup_cons] at distinct
  rw [List.forall_mem_cons] at unseen
  refine ⟨less, rfl, rfl, unseen.1, resolved, same, climbs, Nat.le_of_succ_le_succ short,
    distinct.2, ?_⟩
  intro other mem old
  rcases List.mem_cons.1 old with again | old
  · exact distinct.1 (List.mem_map.2 ⟨other, mem, again⟩)
  · exact unseen.2 other mem old

/-- A walk that fails has climbed to a name that it cannot go past. -/
theorem exists_obstacle (failed : provider.basesFrom origin room seen start = .error reason) :
    ∃ met stop, provider.Stretch origin room seen start met (some stop) ∧
      provider.Obstacle origin (met.map StructuredType.name ++ seen) (room - met.length) stop
        reason := by
  induction room generalizing seen start with
  | zero =>
    cases start with
    | none => cases failed
    | some next =>
      cases failed
      exact ⟨[], next, .here .., .circular (.inr rfl)⟩
  | succ room ih =>
    cases start with
    | none => cases failed
    | some next =>
    rcases provider.basesFrom_some origin (room + 1) seen next with
      ⟨reason', obstacle, ends⟩ | ⟨less, type, room_eq, fresh, resolved, same, goesOn⟩
    · rw [ends] at failed
      cases failed
      exact ⟨[], next, .here .., obstacle⟩
    · cases room_eq
      rw [goesOn, map_eq_error_iff] at failed
      obtain ⟨met, stop, stretch, obstacle⟩ := ih failed
      refine ⟨type :: met, stop, stretch.up fresh resolved same, ?_⟩
      rw [List.length_cons, Nat.succ_sub_succ, List.map_cons, (resolve_structured resolved).1]
      exact obstacle.congr fun name => List.perm_middle.mem_iff

theorem Stretch.fails {stop : QualifiedName}
    (stretch : provider.Stretch origin room seen start met (some stop))
    (obstacle : provider.Obstacle origin (met.map StructuredType.name ++ seen)
      (room - met.length) stop reason) :
    provider.basesFrom origin room seen start = .error reason := by
  induction met generalizing room seen start with
  | nil =>
    cases stretch.climbs
    exact basesFrom_of_obstacle obstacle
  | cons type met ih =>
    obtain ⟨less, rfl, rfl, fresh, resolved, same, above⟩ := stretch.down
    rw [List.length_cons, Nat.succ_sub_succ, List.map_cons] at obstacle
    rw [basesFrom_of_resolve fresh resolved same, map_eq_error_iff]
    apply ih above
    exact obstacle.congr fun name => List.perm_middle.mem_iff.symm

theorem bases_eq_error_iff (type : StructuredType) :
    provider.bases type = .error reason ↔
      ∃ met stop, provider.Climbs type.category type.baseType met (some stop) ∧
        met.length ≤ maxBaseTypes ∧ ((type :: met).map StructuredType.name).Nodup ∧
        provider.Obstacle type ((type :: met).map StructuredType.name)
          (maxBaseTypes - met.length) stop reason := by
  have seen (met : List StructuredType) (name : QualifiedName) :
      name ∈ met.map StructuredType.name ++ [type.name] ↔
        name ∈ (type :: met).map StructuredType.name := by
    rw [List.map_cons, List.mem_append, List.mem_singleton, List.mem_cons, or_comm]
  constructor
  · intro failed
    obtain ⟨met, stop, ⟨climbs, short, distinct, unseen⟩, obstacle⟩ := exists_obstacle failed
    refine ⟨met, stop, climbs, short, ?_, obstacle.congr (seen met)⟩
    rw [List.map_cons, List.nodup_cons, List.mem_map]
    refine ⟨?_, distinct⟩
    rintro ⟨other, mem, again⟩
    exact unseen other mem (List.mem_singleton.2 again)
  · rintro ⟨met, stop, climbs, short, distinct, obstacle⟩
    rw [List.map_cons, List.nodup_cons] at distinct
    refine Stretch.fails ⟨climbs, short, distinct.2, ?_⟩
      (obstacle.congr fun name => (seen met name).symm)
    intro other mem old
    exact distinct.1 (List.mem_map.2 ⟨other, mem, List.mem_singleton.1 old⟩)

end Ends

section Resources

/-- The names that a walk resolves, one after another. -/
def resolvedFrom (provider : Provider) (origin : StructuredType) : (room : Nat) →
    (seen : List QualifiedName) → (next : Option QualifiedName) → List QualifiedName
  | _, _, none => []
  | 0, _, some _ => []
  | room + 1, seen, some next =>
    if next ∈ seen then []
    else
      match provider.resolveStructured origin.category next with
      | .ok (some type) => next :: provider.resolvedFrom origin room (next :: seen) type.baseType
      | _ => [next]

/-- The names that are resolved to find the base types of a type. -/
def resolvedAbove (provider : Provider) (type : StructuredType) : List QualifiedName :=
  provider.resolvedFrom type maxBaseTypes [type.name] type.baseType

@[simp] theorem resolvedFrom_none (provider : Provider) (origin : StructuredType) (room : Nat)
    (seen : List QualifiedName) : provider.resolvedFrom origin room seen none = [] := by
  cases room <;> rfl

theorem length_resolvedFrom_le (provider : Provider) (origin : StructuredType) (room : Nat)
    (seen : List QualifiedName) (start : Option QualifiedName) :
    (provider.resolvedFrom origin room seen start).length ≤ room := by
  fun_induction provider.resolvedFrom origin room seen start with
  | case1 | case2 | case3 => simp
  | case4 _ _ _ _ _ _ ih => simpa using ih
  | case5 => simp

theorem nodup_resolvedFrom (provider : Provider) (origin : StructuredType) (room : Nat)
    (seen : List QualifiedName) (start : Option QualifiedName) :
    (provider.resolvedFrom origin room seen start).Nodup ∧
      ∀ name ∈ provider.resolvedFrom origin room seen start, name ∉ seen := by
  fun_induction provider.resolvedFrom origin room seen start with
  | case1 | case2 | case3 => simp
  | case4 room seen next fresh type _ ih =>
    refine ⟨List.nodup_cons.2 ⟨fun again => ih.2 next again List.mem_cons_self, ih.1⟩, ?_⟩
    rw [List.forall_mem_cons]
    exact ⟨fresh, fun name mem old => ih.2 name mem (List.mem_cons_of_mem next old)⟩
  | case5 room seen next fresh => simpa using fresh

/-- Only what the names of a walk stand for matters to it. -/
theorem basesFrom_congr {other : Provider} (origin : StructuredType) (room : Nat)
    (seen : List QualifiedName) (start : Option QualifiedName)
    (agree : ∀ name ∈ provider.resolvedFrom origin room seen start,
      other.resolve name = provider.resolve name) :
    other.basesFrom origin room seen start = provider.basesFrom origin room seen start := by
  have first {next : QualifiedName} (same : other.resolve next = provider.resolve next) :
      other.resolveStructured origin.category next =
        provider.resolveStructured origin.category next := by
    rw [resolveStructured, resolveStructured, same]
  fun_induction provider.resolvedFrom origin room seen start with
  | case1 => simp
  | case2 => rfl
  | case3 room seen next old => rw [basesFrom, basesFrom, if_pos old, if_pos old]
  | case4 room seen next fresh type found ih =>
    rw [List.forall_mem_cons] at agree
    rw [basesFrom, basesFrom, if_neg fresh, if_neg fresh, first agree.1, found]
    simp only [ih agree.2]
  | case5 room seen next fresh none =>
    rw [basesFrom, basesFrom, if_neg fresh, if_neg fresh, first (agree next List.mem_cons_self)]
    cases found : provider.resolveStructured origin.category next with
    | error reason => rfl
    | ok base =>
      cases base with
      | none => rfl
      | some type => exact absurd found (none type)

/-- A walk that arrives has resolved the names of the types that it met and no other ones. -/
theorem resolvedFrom_of_basesFrom {origin : StructuredType} {room : Nat}
    {seen : List QualifiedName} {start : Option QualifiedName} {bases : List StructuredType}
    (found : provider.basesFrom origin room seen start = .ok bases) :
    provider.resolvedFrom origin room seen start = bases.map StructuredType.name := by
  induction room generalizing seen start bases with
  | zero => cases start <;> cases found; rfl
  | succ room ih =>
    cases start with
    | none =>
      cases found
      rfl
    | some next =>
    rcases provider.basesFrom_some origin (room + 1) seen next with
      ⟨reason, -, ends⟩ | ⟨less, type, room_eq, fresh, resolved, same, goesOn⟩
    · rw [ends] at found
      cases found
    · cases room_eq
      rw [goesOn] at found
      obtain ⟨above, rest, rfl⟩ := map_eq_ok_iff.1 found
      rw [resolvedFrom, if_neg fresh, resolveStructured_eq_some_iff.2 ⟨resolved, same⟩]
      simp only [ih rest, List.map_cons, (resolve_structured resolved).1]

end Resources

end Provider

section Answers

variable {α β : Type} {answer : Answer α}

theorem Answer.andThen_of_ok {a : α} (next : α → Registry → Answer β)
    (answered : answer.1 = .ok a) : answer.andThen next = next a answer.2 := by
  obtain ⟨outcome, registry⟩ := answer
  cases answered
  rfl

theorem Answer.andThen_of_error {reason : SchemaError} (next : α → Registry → Answer β)
    (failed : answer.1 = .error reason) : answer.andThen next = (.error reason, answer.2) := by
  obtain ⟨outcome, registry⟩ := answer
  cases failed
  rfl

@[simp] theorem Answer.map_fst (f : α → β) (answer : Answer α) :
    (answer.map f).1 = answer.1.map f := by
  obtain ⟨outcome, registry⟩ := answer
  cases outcome <;> rfl

@[simp] theorem Answer.map_snd (f : α → β) (answer : Answer α) : (answer.map f).2 = answer.2 := by
  obtain ⟨outcome, registry⟩ := answer
  cases outcome <;> rfl

end Answers

namespace Registry

variable {provider : Provider} {registry : Registry}

/-- What is left of a registry when names are resolved one after another. -/
def resolveEach (registry : Registry) (provider : Provider) (names : List QualifiedName) :
    Registry :=
  names.foldl (fun registry name => (registry.resolve provider name).2) registry

/-- A walk does nothing to a registry but resolving its names. -/
theorem basesFrom_registry (sound : Sound provider registry) (origin : StructuredType)
    (room : Nat) (seen : List QualifiedName) (start : Option QualifiedName) :
    (registry.basesFrom provider origin room seen start).2 =
      registry.resolveEach provider (provider.resolvedFrom origin room seen start) := by
  fun_induction provider.resolvedFrom origin room seen start generalizing registry with
  | case1 room seen => cases room <;> rfl
  | case2 => rfl
  | case3 room seen next old =>
    rw [basesFrom, if_pos old]
    rfl
  | case4 room seen next fresh type found ih =>
    obtain ⟨answered, sound'⟩ := resolveStructured_agrees sound origin.category next
    rw [basesFrom, if_neg fresh, Answer.andThen_of_ok _ (answered.trans found), Answer.map_snd,
      ih sound', resolveStructured, Answer.map_snd]
    rfl
  | case5 room seen next fresh none =>
    have answered := (resolveStructured_agrees sound origin.category next).1
    have left : (registry.resolveStructured provider origin.category next).2 =
        registry.resolveEach provider [next] := Answer.map_snd _ _
    rw [basesFrom, if_neg fresh, ← left]
    -- Whether nothing is found or the resolution fails, the walk ends here.
    cases found : provider.resolveStructured origin.category next with
    | error reason => rw [Answer.andThen_of_error _ (answered.trans found)]
    | ok base =>
      rw [Answer.andThen_of_ok _ (answered.trans found)]
      cases base with
      | none => rfl
      | some type => exact absurd found (none type)

/-- Finding base types resolves the names of the walk and notes what was found, if anything. -/
theorem bases_registry (sound : Sound provider registry) (type : StructuredType) :
    (registry.bases provider type).2 = registry ∨
      ∃ noted, (registry.bases provider type).2 =
        { registry.resolveEach provider (provider.resolvedAbove type) with baseTypes := noted } := by
  have left := basesFrom_registry sound type maxBaseTypes [type.name] type.baseType
  unfold Registry.bases
  split
  · exact .inl rfl
  right
  rw [Provider.resolvedAbove, ← left]
  generalize registry.basesFrom provider type maxBaseTypes [type.name] type.baseType = answer
  obtain ⟨outcome, later⟩ := answer
  cases outcome with
  | ok bases => exact ⟨_, rfl⟩
  | error reason => exact ⟨later.baseTypes, rfl⟩

/-- The base types of a type that is handed out or was never asked about are those of its walk. -/
theorem bases_answer (sound : Sound provider registry) {type : StructuredType}
    (own : provider.Offers type ∨ registry.baseTypes.lookup type.name = none) :
    (registry.bases provider type).1 = provider.bases type := by
  rcases own with offered | unseen
  · exact (bases_agrees sound offered).1
  · have answered := (basesFrom_agrees type maxBaseTypes [type.name] type.baseType sound).1
    rw [Registry.bases, unseen, Provider.bases, ← answered]
    generalize registry.basesFrom provider type maxBaseTypes [type.name] type.baseType = answer
    obtain ⟨outcome, later⟩ := answer
    cases outcome <;> rfl

/-- The base types of a type are found exactly if base names lead over at most 64 types of its own
category, all of different names, to a type without a base type. Else the walk fails at the first
name that was seen before or for which there is no room, that cannot be resolved, or that stands for
no type of the category, with the error that belongs to it. At most 64 names are resolved, and
nothing but what they stand for matters. A registry answers every question about base types, their
listings and inherited elements from this walk. -/
theorem base_chain_exact (provider : Provider) (type : StructuredType) :
    (∀ bases, provider.bases type = .ok bases ↔
      provider.Climbs type.category type.baseType bases none ∧ bases.length ≤ 64 ∧
        ((type :: bases).map StructuredType.name).Nodup) ∧
    (∀ reason, provider.bases type = .error reason ↔
      ∃ met next, provider.Climbs type.category type.baseType met (some next) ∧
        met.length ≤ 64 ∧ ((type :: met).map StructuredType.name).Nodup ∧
        provider.Obstacle type ((type :: met).map StructuredType.name) (64 - met.length) next
          reason) ∧
    (∃ names : List QualifiedName, names.length ≤ 64 ∧ names.Nodup ∧
      (∀ bases, provider.bases type = .ok bases → names = bases.map StructuredType.name) ∧
      (∀ other : Provider, (∀ name ∈ names, other.resolve name = provider.resolve name) →
        other.bases type = provider.bases type) ∧
      ∀ registry, Reached provider registry → (registry.bases provider type).2 = registry ∨
        ∃ noted, (registry.bases provider type).2 =
          { registry.resolveEach provider names with baseTypes := noted }) ∧
    ∀ registry, Reached provider registry →
      (∀ name, (registry.resolve provider name).1 = provider.resolve name) ∧
      (provider.Offers type ∨ registry.baseTypes.lookup type.name = none →
        let chain := (registry.bases provider type).1
        chain = provider.bases type ∧
        (registry.baseType provider type).1 = chain.map List.head? ∧
        (registry.propertyNames provider type).1 =
          chain.map (type.listNames StructuredType.ownProperties) ∧
        (registry.navigationNames provider type).1 =
          chain.map (type.listNames StructuredType.ownNavigations)) ∧
      (provider.Offers type → ∀ name, type.own? name = none →
        (registry.element provider type name).1 =
          (provider.bases type).map (·.findSome? (·.own? name))) := by
  refine ⟨fun bases => ?_, fun reason => Provider.bases_eq_error_iff type, ?_, ?_⟩
  · rw [Provider.climbs_iff_ascends]
    exact Provider.bases_eq_ok_iff type bases
  · refine ⟨provider.resolvedAbove type, provider.length_resolvedFrom_le .., ?_, ?_, ?_, ?_⟩
    · exact (provider.nodup_resolvedFrom ..).1
    · intro bases found
      exact Provider.resolvedFrom_of_basesFrom found
    · intro other agree
      exact Provider.basesFrom_congr _ _ _ _ agree
    · intro registry reached
      exact bases_registry reached.sound type
  · intro registry reached
    refine ⟨fun name => (resolve_agrees reached.sound name).1, fun own => ?_, ?_⟩
    · exact ⟨bases_answer reached.sound own, Answer.map_fst .., Answer.map_fst ..,
        Answer.map_fst ..⟩
    · intro offered name inherited
      rw [(element_agrees reached.sound offered name).1, Provider.element, inherited]

/-- Every complex type of this provider has a base type of yet another name. -/
def endlessProvider : Provider where
  enumeration? _ := none
  complex? name := some { name := name.name, baseType := some ⟨name.space, name.name ++ "x"⟩ }
  entity? _ := none

def endlessType : StructuredType :=
  { maskedType with
    name := ⟨"n", "x"⟩, baseType := some ⟨"n", "xx"⟩, elements := []
    distinct := List.nodup_nil }

theorem base_chain_exact_endless :
    let registry := (run endlessProvider [.complexType endlessType.name] empty).2
    Reached endlessProvider registry ∧ endlessProvider.Offers endlessType ∧
      endlessType.own? "y" = none ∧
      (registry.propertyNames endlessProvider endlessType).1 =
        .error (.cyclicBases endlessType.name) ∧
      (registry.element endlessProvider endlessType "y").1 =
        .error (.cyclicBases endlessType.name) := by
  intro registry
  have reached : Reached endlessProvider registry := ⟨_, by decide, rfl⟩
  have offered : endlessProvider.Offers endlessType := rfl
  have ends : endlessProvider.bases endlessType = .error (.cyclicBases endlessType.name) := by
    decide +kernel
  obtain ⟨-, -, -, answers⟩ := base_chain_exact endlessProvider endlessType
  obtain ⟨-, listed, inherited⟩ := answers registry reached
  obtain ⟨chain, -, names, -⟩ := listed (.inl offered)
  refine ⟨reached, offered, rfl, ?_, ?_⟩
  · rw [names, chain, ends]
    rfl
  · rw [inherited offered "y" rfl, ends]
    rfl

end Registry

end EntityModel
