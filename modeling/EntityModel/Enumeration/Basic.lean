import EntityModel.Literal.Kind
import EntityModel.Schema.Declaration
import EntityModel.Schema.Error

/-!
Enumerations: named members over an integer type. An enumeration is built from a list of members
whose names differ and whose values fit the underlying width; a declaration may leave out values,
which then count on from the member before.
-/

set_option autoImplicit false

namespace EntityModel

structure Member where
  name : String
  value : Int64
  deriving DecidableEq

/-- An enumeration. In an enumeration of flags the bits of several members may be combined. -/
structure Enumeration where
  name : QualifiedName
  underlying : IntegerWidth
  isFlags : Bool
  members : List Member
  inRange : ∀ member ∈ members, underlying.Contains member.value.toInt
  distinct : (members.map Member.name).Nodup
  deriving DecidableEq

namespace Enumeration

/-- The first member that may not follow the names before it, with what is wrong with it. A value
out of range counts before a repeated name. -/
def fault? (name : QualifiedName) (width : IntegerWidth) : (taken : List String) → List Member →
    Option SchemaError
  | _, [] => none
  | taken, member :: rest =>
    if ¬ width.Contains member.value.toInt then
      some (.memberOutOfRange name member.name member.value)
    else if member.name ∈ taken then some (.repeatedMember name member.name)
    else fault? name width (member.name :: taken) rest

theorem fault?_eq_none_iff (name : QualifiedName) (width : IntegerWidth) (taken : List String)
    (members : List Member) :
    fault? name width taken members = none ↔
      (∀ member ∈ members, width.Contains member.value.toInt) ∧
        (members.map Member.name).Nodup ∧ ∀ member ∈ members, member.name ∉ taken := by
  induction members generalizing taken with
  | nil => simp [fault?]
  | cons member rest ih =>
    rw [fault?]
    by_cases fits : width.Contains member.value.toInt
    · by_cases repeated : member.name ∈ taken
      · simp [fits, repeated]
      · simp only [fits, repeated, not_true_eq_false, if_false, ih, List.mem_cons,
          forall_eq_or_imp, List.map_cons, List.nodup_cons, List.mem_map, not_or, true_and,
          not_false_eq_true, not_exists, not_and]
        constructor
        · rintro ⟨inRange, distinct, fresh⟩
          exact ⟨inRange, ⟨fun other mem same => (fresh other mem).1 same, distinct⟩,
            fun other mem => (fresh other mem).2⟩
        · rintro ⟨inRange, ⟨first, distinct⟩, fresh⟩
          exact ⟨inRange, distinct, fun other mem => ⟨first other mem, fresh other mem⟩⟩
    · simp [fits]

def ofMembers (name : QualifiedName) (underlying : PrimitiveKind) (isFlags : Bool)
    (members : List Member) : Except SchemaError Enumeration :=
  match underlying.width? with
  | none => .error (.unusableUnderlying name underlying.qualifiedName)
  | some width =>
    match found : fault? name width [] members with
    | some reason => .error reason
    | none =>
      .ok { name, underlying := width, isFlags, members
            inRange := ((fault?_eq_none_iff _ _ _ _).1 found).1
            distinct := ((fault?_eq_none_iff _ _ _ _).1 found).2.1 }

/-- The value after another one; nothing follows the greatest. -/
def following (value : Int64) : Option Int64 :=
  if value = Int64.maxValue then none else some (value + 1)

/-- Gives a value to every member: its own, or the one that follows the member before. -/
def assignValues (name : QualifiedName) : (next : Option Int64) → List MemberDeclaration →
    Except SchemaError (List Member)
  | _, [] => .ok []
  | next, declared :: rest =>
    match declared.value.or next with
    | none => .error (.memberOutOfRange name declared.name Int64.maxValue)
    | some value =>
      match assignValues name (following value) rest with
      | .ok members => .ok (⟨declared.name, value⟩ :: members)
      | .error reason => .error reason

/-- The primitive type that a declaration names, `Edm.Int32` if it names none. -/
def underlyingKind (name : QualifiedName) : Option QualifiedName → Except SchemaError PrimitiveKind
  | none => .ok (.integer .int32)
  | some underlying =>
    match PrimitiveKind.ofQualifiedName? underlying with
    | some kind => .ok kind
    | none => .error (.unusableUnderlying name underlying)

def ofDeclaration (name : QualifiedName) (declaration : EnumerationDeclaration) :
    Except SchemaError Enumeration := do
  let underlying ← underlyingKind name declaration.underlying
  let members ← assignValues name (some 0) declaration.members
  ofMembers name underlying declaration.isFlags members

def member? (e : Enumeration) (name : String) : Option Member := e.members.find? (·.name == name)

def underlyingType (e : Enumeration) : PrimitiveKind := .integer e.underlying

def hostType (e : Enumeration) : HostType := .integer e.underlying

end Enumeration

end EntityModel
