/-!
Qualified names, the keys of all types of a model. The text of a name is its namespace, a dot and
its simple name; reading splits at the last dot.
-/

set_option autoImplicit false

namespace EntityModel

/-- A namespace and a simple name. Neither is checked, so different names may have one text. -/
structure QualifiedName where
  space : String
  name : String
  deriving DecidableEq, Repr, Inhabited

namespace QualifiedName

def primitiveNamespace : String := "Edm"

def primitive (name : String) : QualifiedName := ⟨primitiveNamespace, name⟩

def isPrimitive (q : QualifiedName) : Bool := q.space == primitiveNamespace

def text (q : QualifiedName) : String := q.space ++ "." ++ q.name

/-- Splits at the last occurrence of a character: what stands before it and what stands after it. -/
def splitAtLast? (c : Char) : List Char → Option (List Char × List Char)
  | [] => none
  | first :: rest =>
    match splitAtLast? c rest with
    | some (before, after) => some (first :: before, after)
    | none => if first = c then some ([], rest) else none

theorem splitAtLast?_eq_none_iff {c : Char} {text : List Char} :
    splitAtLast? c text = none ↔ c ∉ text := by
  induction text with
  | nil => simp [splitAtLast?]
  | cons first rest ih =>
    rw [splitAtLast?, List.mem_cons, not_or, ← ih]
    cases splitAtLast? c rest <;> simp [eq_comm]

theorem splitAtLast?_eq_some_iff {c : Char} {text before after : List Char} :
    splitAtLast? c text = some (before, after) ↔ text = before ++ c :: after ∧ c ∉ after := by
  constructor
  · intro split
    induction text generalizing before with
    | nil => cases split
    | cons first rest ih =>
      rw [splitAtLast?] at split
      cases found : splitAtLast? c rest with
      | some parts =>
        rw [found] at split
        cases split
        exact ⟨congrArg (first :: ·) (ih found).1, (ih found).2⟩
      | none =>
        rw [found] at split
        obtain ⟨rfl, same⟩ := Option.ite_none_right_eq_some.1 split
        cases same
        exact ⟨rfl, splitAtLast?_eq_none_iff.1 found⟩
  · rintro ⟨rfl, absent⟩
    induction before with
    | nil => simp [splitAtLast?, splitAtLast?_eq_none_iff.2 absent]
    | cons first before ih => simp [splitAtLast?, ih]

/-- Splits a text at its last dot; both sides must be nonempty. -/
def parts? (text : List Char) : Option (List Char × List Char) :=
  match splitAtLast? '.' text with
  | some (before, after) => if before = [] ∨ after = [] then none else some (before, after)
  | none => none

/-- A text has two parts if it consists of them with its last dot in between. -/
theorem parts?_eq_some_iff {text before after : List Char} :
    parts? text = some (before, after) ↔
      text = before ++ '.' :: after ∧ before ≠ [] ∧ after ≠ [] ∧ '.' ∉ after := by
  constructor
  · intro parts
    unfold parts? at parts
    split at parts
    · next split =>
      obtain ⟨whole, undotted⟩ := splitAtLast?_eq_some_iff.1 split
      obtain ⟨filled, same⟩ := Option.ite_none_left_eq_some.1 parts
      cases same
      rw [not_or] at filled
      exact ⟨whole, filled.1, filled.2, undotted⟩
    · cases parts
  · rintro ⟨whole, before_ne, after_ne, undotted⟩
    rw [parts?, splitAtLast?_eq_some_iff.2 ⟨whole, undotted⟩]
    exact if_neg (not_or.2 ⟨before_ne, after_ne⟩)

def ofText? (text : String) : Option QualifiedName :=
  (parts? text.toList).map fun (before, after) => ⟨String.ofList before, String.ofList after⟩

/-- The name that a reference means inside a namespace: a qualified text means itself, any other
text a name of that namespace. -/
def ofReference (current text : String) : QualifiedName :=
  (ofText? text).getD ⟨current, text⟩

/-- Names are ordered by namespace, then by name. -/
instance : Ord QualifiedName where
  compare a b := (compare a.space b.space).then (compare a.name b.name)

instance : ToString QualifiedName := ⟨text⟩

end QualifiedName

end EntityModel
