import ODataRequest.Number.Binary64
import ODataRequest.Table
namespace ODataRequest

/-- A JSON number: an integer of 64 bits, signed or not, or a finite double. -/
inductive JsonNumber
  | integer (i : Int)
  | float (x : Binary64)
  deriving DecidableEq

inductive Json
  | null
  | bool (b : Bool)
  | number (n : JsonNumber)
  | string (s : String)
  | array (items : List Json)
  | object (fields : List (String × Json))
  deriving Inhabited

def fitsSigned64 (i : Int) : Bool := decide (-0x8000000000000000 ≤ i ∧ i < 0x8000000000000000)

namespace Json

def ofInt (i : Int) : Json := number (.integer i)

/-- An object from fields in any order; of two fields with one name the later is kept. -/
def ofFields (fields : List (String × Json)) : Json := object (Table.ofList fields).entries

def ofOption : Option Json → Json
  | some json => json
  | none => null

def ofOptionalText (text : Option String) : Json := ofOption (text.map string)

def ofStrings (texts : List String) : Json := array (texts.map string)

def field? : Json → String → Option Json
  | object fields, name => lookupNamed name fields
  | _, _ => none

def int64? : Json → Option Int
  | number (.integer i) => if fitsSigned64 i then some i else none
  | _ => none

def string? : Json → Option String
  | string s => some s
  | _ => none

def bool? : Json → Option Bool
  | bool b => some b
  | _ => none

def array? : Json → Option (List Json)
  | array items => some items
  | _ => none

def present? (json : Json) (name : String) : Option Json :=
  (json.field? name).filter fun
    | null => false
    | _ => true

def text? (json : Json) (name : String) : Option String := (json.present? name).bind string?

def isSet (json : Json) (name : String) : Bool := ((json.present? name).bind bool?).getD false

end Json
end ODataRequest
