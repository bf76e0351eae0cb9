import EntityModel.Proofs.Outcome
import EntityModel.Schema.Resolution

/-!
The way up along base types as a relation. `basesFrom` finds a list of base types exactly if it is
such a way, is short enough and meets no name twice; hence what is above a base type is a tail of
what is above the type itself.
-/

set_option autoImplicit false

namespace EntityModel

theorem StructuredType.ofDeclaration_eq_ok {name : QualifiedName} {category : StructuredCategory}
    {declaration : StructuredDeclaration} {type : StructuredType}
    (built : ofDeclaration name category declaration = .ok type) :
    type.name = name ∧ type.category = category := by
  unfold ofDeclaration at built
  dsimp only at built
  split at built
  · cases built
  · cases built
    exact ⟨rfl, rfl⟩

theorem ModelType.structured?_eq_some {category : StructuredCategory} {type : StructuredType}
    {found : ModelType} (structured : found.structured? category = some type) :
    found = .structured type ∧ type.category = category := by
  unfold structured? at structured
  split at structured
  · split at structured <;> cases structured
    next same => exact ⟨rfl, same⟩
  · cases structured

namespace Provider

variable {provider : Provider}

/-- A structured type is the one that a provider declares under its name. -/
def Offers (provider : Provider) (type : StructuredType) : Prop :=
  provider.resolve type.name = .ok (some (.structured type))

theorem Offers.eq_of_name {first second : StructuredType} (one : provider.Offers first)
    (other : provider.Offers second) (same : first.name = second.name) : first = second := by
  unfold Offers at one other
  rw [same, other] at one
  cases one
  rfl

theorem declared?_structured {name : QualifiedName} {type : StructuredType}
    (found : provider.declared? name = .ok (some (.structured type))) : type.name = name := by
  unfold declared? at found
  split at found
  · cases found
  · cases built : Enumeration.ofDeclaration name _ <;> rw [built] at found <;> cases found
  · cases built : StructuredType.ofDeclaration name .complex _ <;> rw [built] at found <;>
      cases found
    exact (StructuredType.ofDeclaration_eq_ok built).1
  · cases built : StructuredType.ofDeclaration name .entity _ <;> rw [built] at found <;>
      cases found
    exact (StructuredType.ofDeclaration_eq_ok built).1
  · cases found

/-- Resolving a name leads to a type of that name. -/
theorem resolve_structured {name : QualifiedName} {type : StructuredType}
    (found : provider.resolve name = .ok (some (.structured type))) :
    type.name = name ∧ provider.Offers type := by
  have named : type.name = name := by
    unfold resolve at found
    split at found
    · cases kind : PrimitiveKind.ofQualifiedName? name <;> rw [kind] at found <;> cases found
    · exact declared?_structured found
  exact ⟨named, by rw [Offers, named]; exact found⟩

theorem resolveStructured_eq_some {category : StructuredCategory} {name : QualifiedName}
    {type : StructuredType} (found : provider.resolveStructured category name = .ok (some type)) :
    type.name = name ∧ type.category = category ∧ provider.Offers type := by
  obtain ⟨_, resolved, bound⟩ := map_eq_ok_iff.1 found
  obtain ⟨_, rfl, structured⟩ := Option.bind_eq_some_iff.1 bound
  obtain ⟨rfl, same⟩ := ModelType.structured?_eq_some structured
  exact ⟨(resolve_structured resolved).1, same, (resolve_structured resolved).2⟩

/-- `Ascends category next bases`: from the name `next` on, base types are `bases`, nearest first,
all of one category, and the last one has no base type. -/
inductive Ascends (provider : Provider) (category : StructuredCategory) :
    Option QualifiedName → List StructuredType → Prop where
  | root : Ascends provider category none []
  | above {next : QualifiedName} {type : StructuredType} {bases : List StructuredType} :
      provider.resolveStructured category next = .ok (some type) →
      Ascends provider category type.baseType bases →
      Ascends provider category (some next) (type :: bases)

@[simp] theorem basesFrom_none (origin : StructuredType) (depth : Nat)
    (seen : List QualifiedName) : provider.basesFrom origin depth seen none = .ok [] := by
  cases depth <;> rfl

@[simp] theorem ascends_none_iff (category : StructuredCategory) (bases : List StructuredType) :
    provider.Ascends category none bases ↔ bases = [] := by
  constructor
  · intro ascent
    cases ascent
    rfl
  · rintro rfl
    exact .root

theorem basesFrom_eq_ok_iff (origin : StructuredType) (depth : Nat) (seen : List QualifiedName)
    (next : Option QualifiedName) (bases : List StructuredType) :
    provider.basesFrom origin depth seen next = .ok bases ↔
      provider.Ascends origin.category next bases ∧ bases.length ≤ depth ∧
        (bases.map StructuredType.name).Nodup ∧ ∀ type ∈ bases, type.name ∉ seen := by
  induction depth generalizing seen next bases with
  | zero =>
    cases next with
    | none => simp +contextual [eq_comm]
    | some next =>
      constructor
      · intro found
        cases found
      · rintro ⟨ascent, short, -⟩
        cases ascent
        simp at short
  | succ depth ih =>
    cases next with
    | none => simp +contextual [eq_comm]
    | some next =>
      constructor
      · intro found
        rw [basesFrom] at found
        split at found
        · cases found
        next fresh =>
        split at found
        · cases found
        · cases found
        next type resolved =>
        cases rest : provider.basesFrom origin depth (next :: seen) type.baseType with
        | error reason => rw [rest] at found; cases found
        | ok above =>
          rw [rest] at found
          cases found
          obtain ⟨ascent, short, distinct, unseen⟩ := (ih _ _ _).1 rest
          have named := (resolveStructured_eq_some resolved).1
          -- The names above were looked for after `next` was seen, so none of them is `next`.
          refine ⟨.above resolved ascent, by simpa using short, ?_, ?_⟩
          · rw [List.map_cons, List.nodup_cons, List.mem_map]
            refine ⟨?_, distinct⟩
            rintro ⟨other, mem, same⟩
            exact unseen other mem (by rw [same, named]; exact List.mem_cons_self)
          · intro other mem
            rcases List.mem_cons.1 mem with rfl | mem
            · rwa [named]
            · exact fun old => unseen other mem (List.mem_cons_of_mem _ old)
      · rintro ⟨ascent, short, distinct, unseen⟩
        cases ascent with
        | @above _ type above resolved ascent =>
        have named := (resolveStructured_eq_some resolved).1
        have fresh : next ∉ seen := named ▸ unseen type List.mem_cons_self
        rw [List.map_cons, List.nodup_cons] at distinct
        have rest : provider.basesFrom origin depth (next :: seen) type.baseType = .ok above := by
          refine (ih _ _ _).2 ⟨ascent, by simpa using short, distinct.2, ?_⟩
          intro other mem old
          rcases List.mem_cons.1 old with same | old
          · exact distinct.1 (List.mem_map.2 ⟨other, mem, same.trans named.symm⟩)
          · exact unseen other (List.mem_cons_of_mem _ mem) old
        rw [basesFrom, if_neg fresh, resolved]
        dsimp only
        rw [rest]
        rfl

/-- The base types of a type are the way up from it, if the way is short enough and meets no name
twice, the name of the type included. -/
theorem bases_eq_ok_iff (type : StructuredType) (bases : List StructuredType) :
    provider.bases type = .ok bases ↔
      provider.Ascends type.category type.baseType bases ∧ bases.length ≤ maxBaseTypes ∧
        ((type :: bases).map StructuredType.name).Nodup := by
  rw [Provider.bases, basesFrom_eq_ok_iff, List.map_cons, List.nodup_cons, List.mem_map]
  constructor
  · rintro ⟨ascent, short, distinct, unseen⟩
    refine ⟨ascent, short, ?_, distinct⟩
    rintro ⟨other, mem, same⟩
    exact unseen other mem (by simp [same])
  · rintro ⟨ascent, short, apart, distinct⟩
    refine ⟨ascent, short, distinct, ?_⟩
    intro other mem old
    exact apart ⟨other, mem, List.mem_singleton.1 old⟩

/-- What is above the nearest base type is what is left of the way up. -/
theorem bases_of_cons {type base : StructuredType} {above : List StructuredType}
    (found : provider.bases type = .ok (base :: above)) :
    provider.Offers base ∧ base.category = type.category ∧ provider.bases base = .ok above := by
  obtain ⟨ascent, short, distinct⟩ := (bases_eq_ok_iff _ _).1 found
  generalize type.baseType = next at ascent
  cases ascent with
  | above resolved ascent =>
  obtain ⟨-, same, offered⟩ := resolveStructured_eq_some resolved
  refine ⟨offered, same, (bases_eq_ok_iff _ _).2 ⟨by rwa [same], ?_, ?_⟩⟩
  · simp only [List.length_cons] at short
    omega
  · rw [List.map_cons, List.nodup_cons] at distinct
    exact distinct.2

end Provider

end EntityModel
