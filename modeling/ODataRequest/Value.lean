import ODataRequest.Number.Decimal
import ODataRequest.Calendar
import ODataRequest.Guid
import ODataRequest.TypeRef
namespace ODataRequest

/-- A literal before it is written as text of some type. -/
inductive Value
  | null
  | bool (b : Bool)
  | int (i : Int)
  | float (x : Binary64)
  | decimal (d : Decimal)
  | string (s : String)
  | guid (g : Guid)
  | dateTimeOffset (moment : DateTimeOffset)
  | date (d : Date)
  | timeOfDay (t : TimeOfDay)
  | duration (d : Duration)
  | binary (octets : List UInt8)
  | member (name : String)
  | list (items : List Value)
  | raw (text : String)

namespace Value

/-- The type of a value for which none is declared; a list follows its first item. -/
def defaultType : Value → TypeRef
  | bool _ => .boolean
  | int _ => .int64
  | float _ => .edm "Double"
  | decimal _ => .edm "Decimal"
  | null | string _ | member _ => .string
  | guid _ => .edm "Guid"
  | dateTimeOffset _ => .edm "DateTimeOffset"
  | date _ => .edm "Date"
  | timeOfDay _ => .edm "TimeOfDay"
  | duration _ => .edm "Duration"
  | binary _ => .edm "Binary"
  | list [] => .collection .string
  | list (first :: _) => .collection first.defaultType
  | raw _ => .raw

def isInteger : Value → Bool
  | int _ => true
  | decimal d => d.isInteger
  | _ => false

def isList : Value → Bool
  | list _ => true
  | _ => false

/-- The text of a value in messages; a literal has a text of its own for each type. -/
def display : Value → String
  | null => "null"
  | bool b => if b then "true" else "false"
  | int i => signedNumeral i
  | float x => x.plainText
  | decimal d => d.text
  | string s | member s | raw s => "\"" ++ s ++ "\""
  | guid g => g.text
  | dateTimeOffset moment => moment.text
  | date d => d.text
  | timeOfDay t => t.text
  | duration d => d.text
  | binary octets => "<" ++ numeral octets.length ++ " bytes>"
  | list items => "<list of " ++ numeral items.length ++ ">"

end Value
end ODataRequest
