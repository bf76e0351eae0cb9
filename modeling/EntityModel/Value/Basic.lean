import EntityModel.Number.Width
import EntityModel.Number.Floating
import EntityModel.Value.Guid
import EntityModel.Value.Moment

/-!
Values and the types in which a program can hold them. A literal is read into a value of the host
type that the caller asks for.
-/

set_option autoImplicit false

namespace EntityModel

/-- How a value is held. -/
inductive HostType where
  | bool
  | integer (width : IntegerWidth)
  | decimal
  | floating (format : FloatFormat)
  | string
  | uuid
  | bytes
  | date
  | dateTimeOffset
  | timeOfDay
  | duration
  deriving DecidableEq, Repr

namespace HostType

def all : List HostType :=
  [bool, integer .byte, integer .sbyte, integer .int16, integer .int32, integer .int64, decimal,
    floating .double, floating .single, string, uuid, bytes, date, dateTimeOffset, timeOfDay,
    duration]

def name : HostType → String
  | bool => "Bool"
  | integer .byte => "U8"
  | integer .sbyte => "I8"
  | integer .int16 => "I16"
  | integer .int32 => "I32"
  | integer .int64 => "I64"
  | decimal => "Decimal"
  | floating .double => "F64"
  | floating .single => "F32"
  | string => "String"
  | uuid => "Uuid"
  | bytes => "Bytes"
  | date => "Date"
  | dateTimeOffset => "DateTimeOffset"
  | timeOfDay => "TimeOfDay"
  | duration => "Duration"

def ofName? (name : String) : Option HostType := all.find? (·.name == name)

def isInteger : HostType → Bool
  | integer _ => true
  | _ => false

def Carrier : HostType → Type
  | bool => Bool
  | integer width => SizedInt width
  | decimal => Decimal
  | floating format => Floating format
  | string => String
  | uuid => Guid
  | bytes => List UInt8
  | date => Date
  | dateTimeOffset => DateTimeOffset
  | timeOfDay => TimeOfDay
  | duration => Duration

end HostType

inductive Value where
  | bool (b : Bool)
  | integer (width : IntegerWidth) (n : SizedInt width)
  | decimal (d : Decimal)
  | floating (format : FloatFormat) (x : Floating format)
  | string (s : String)
  | uuid (guid : Guid)
  | bytes (octets : List UInt8)
  | date (day : Date)
  | dateTimeOffset (instant : DateTimeOffset)
  | timeOfDay (time : TimeOfDay)
  | duration (length : Duration)

namespace Value

def hostType : Value → HostType
  | bool _ => .bool
  | integer width _ => .integer width
  | decimal _ => .decimal
  | floating format _ => .floating format
  | string _ => .string
  | uuid _ => .uuid
  | bytes _ => .bytes
  | date _ => .date
  | dateTimeOffset _ => .dateTimeOffset
  | timeOfDay _ => .timeOfDay
  | duration _ => .duration

def payload : (value : Value) → value.hostType.Carrier
  | bool b => b
  | integer _ n => n
  | decimal d => d
  | floating _ x => x
  | string s => s
  | uuid guid => guid
  | bytes octets => octets
  | date day => day
  | dateTimeOffset instant => instant
  | timeOfDay time => time
  | duration length => length

def ofPayload : (host : HostType) → host.Carrier → Value
  | .bool, b => bool b
  | .integer width, n => integer width n
  | .decimal, d => decimal d
  | .floating format, x => floating format x
  | .string, s => string s
  | .uuid, guid => uuid guid
  | .bytes, octets => bytes octets
  | .date, day => date day
  | .dateTimeOffset, instant => dateTimeOffset instant
  | .timeOfDay, time => timeOfDay time
  | .duration, length => duration length

/-- The payload of a value that is held in the given host type. -/
def extract? (host : HostType) (value : Value) : Option host.Carrier :=
  if h : value.hostType = host then some (h ▸ value.payload) else none

def toInt? : Value → Option Int
  | integer _ n => some n.val
  | _ => none

def ofInt? (n : Int) : HostType → Option Value
  | .integer width => (SizedInt.ofInt? width n).map (integer width)
  | _ => none

end Value

end EntityModel
