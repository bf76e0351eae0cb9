import EntityModel.Enumeration.Basic
import EntityModel.Literal.Spelling
import EntityModel.Literal.Reading

/-!
Literals of enumerations. A literal lists tokens between commas; a token is the name of a member or
the number of one. Only an enumeration of flags takes more than one token and combines their bits.
-/

set_option autoImplicit false

namespace EntityModel.Enumeration

/-- The value that a token stands for. A name counts before a number. -/
def tokenValue? (e : Enumeration) (token : String) : Option Int64 :=
  match e.member? token with
  | some member => some member.value
  | none =>
    (SizedInt.read? e.underlying token.toList).bind fun n =>
      (e.members.find? (·.value == Int64.ofInt n.val)).map Member.value

def tokens (literal : String) : List String := (literal.toList.splitOn ',').map String.ofList

def combine (e : Enumeration) : List String → Except ConversionError Int64
  | [] => .ok 0
  | token :: rest =>
    match e.tokenValue? token with
    | none => .error (.unknownToken e.name token)
    | some value => (e.combine rest).map (value ||| ·)

def parse (e : Enumeration) (literal : String) : Except ConversionError Int64 :=
  let tokens := tokens literal
  if tokens.any (·.isEmpty) then .error (.emptyToken e.name literal)
  else if ¬ e.isFlags ∧ 1 < tokens.length then .error (.severalTokens e.name literal)
  else e.combine tokens

/-- The members that a combination of flags consists of: those with bits, all of them in the value.
-/
def contained (e : Enumeration) (value : Int64) : List Member :=
  e.members.filter fun member => member.value ≠ 0 && member.value &&& value == member.value

def bits (members : List Member) : Int64 :=
  members.foldr (fun member rest => member.value ||| rest) 0

/-- The literal of a value: the first member with this value, or for a combination of flags all
members that it contains. -/
def writeValue (e : Enumeration) (value : Int64) : Except ConversionError String :=
  if ¬ e.isFlags ∨ value = 0 then
    match e.members.find? (·.value == value) with
    | some member => .ok member.name
    | none => .error (.unknownValue e.name value.toInt)
  else
    let contained := e.contained value
    let residual := value &&& ~~~ bits contained
    if residual ≠ 0 then .error (.uncoveredBits e.name residual)
    else .ok (",".intercalate (contained.map Member.name))

def validates (e : Enumeration) (literal : String) : Bool :=
  match e.parse literal with
  | .ok _ => true
  | .error _ => false

def hostValue (e : Enumeration) (value : Int64) (target : HostType) :
    Except ConversionError Value :=
  if ¬ target.isInteger then .error (.unsupportedTarget e.name target)
  else
    match Value.ofInt? value.toInt target with
    | some v => .ok v
    | none => .error (.doesNotFit e.name (String.ofList (Text.integer value.toInt)) target)

def read (e : Enumeration) (target : HostType) (literal : String) : Except ConversionError Value :=
  match e.parse literal with
  | .ok value => e.hostValue value target
  | .error reason => .error reason

def write (e : Enumeration) (value : Value) : Except ConversionError String :=
  match value.toInt? with
  | some n => e.writeValue (Int64.ofInt n)
  | none => .error (.unsupportedValue e.name value.hostType)

end EntityModel.Enumeration
