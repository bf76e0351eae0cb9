/-!
Facets, the limits that a model puts on the values of a property. A facet that is not given limits
nothing.
-/

set_option autoImplicit false

namespace EntityModel

inductive Facet where
  | nullable
  | maxLength
  | precision
  | scale
  | unicode
  deriving DecidableEq, Repr

def Facet.name : Facet → String
  | nullable => "Nullable"
  | maxLength => "MaxLength"
  | precision => "Precision"
  | scale => "Scale"
  | unicode => "Unicode"

/-- The facets given for one conversion. -/
structure Facets where
  nullable : Option Bool := none
  maxLength : Option Nat := none
  precision : Option Nat := none
  scale : Option Nat := none
  unicode : Option Bool := none
  deriving DecidableEq, Repr

namespace Facets

def empty : Facets := {}

/-- Null is allowed unless this is explicitly ruled out. -/
def allowsNull (facets : Facets) : Bool := facets.nullable != some false

end Facets

end EntityModel
