import ODataRequest.Value
import ODataRequest.Schema.Basic
import ODataRequest.Text.Quoted
import ODataRequest.Text.Base64
import ODataRequest.Text.Replace
namespace ODataRequest

/-!
Literals: how a value is written in a request as a value of some type. The type decides, not the
value; a value that has no literal of a type is refused.
-/

abbrev Serializer := Schema → Value → TypeRef → Except Error String

namespace Literal

def mismatch (value : Value) (type : TypeRef) : Error :=
  .notSerializable value.display type.text

def floatText (x : Binary64) : String :=
  if x.isNaN then "NaN"
  else if x.isInfinite then (if x.negative then "-INF" else "INF")
  else x.plainText

def primitive? : String → Value → Option String
  | "String", .string s => some (Text.quoted s)
  | "String", .member s => some (Text.quoted s)
  | "String", value => some (Text.quoted value.display)
  | "Boolean", .bool b => some (Value.bool b).display
  | "Double", .float x | "Single", .float x | "Decimal", .float x => some (floatText x)
  | "Guid", .guid g => some g.text
  | "Guid", .string s => (Guid.ofText? s).map Guid.text
  | "DateTimeOffset", .dateTimeOffset moment => some moment.text
  | "Date", .date d => some d.text
  | "TimeOfDay", .timeOfDay t => some t.text
  | "Duration", .duration d => some ("duration'" ++ d.literalText ++ "'")
  | "Binary", .binary octets => some ("binary'" ++ String.ofList (Text.base64 octets) ++ "'")
  | name, .int i => if (TypeRef.edm name).isNumeric then some (signedNumeral i) else none
  | name, .decimal d => if (TypeRef.edm name).isNumeric then some d.text else none
  | _, _ => none

def enumMember? (e : EnumType) : Value → Option String
  | .member name | .string name =>
    if e.members.contains name then some (e.fullName ++ "'" ++ name ++ "'") else none
  | .int i => some (e.fullName ++ "'" ++ signedNumeral i ++ "'")
  | _ => none

def scalar (schema : Schema) (value : Value) (type : TypeRef) : Except Error String := do
  let named := type.innermost
  match ← schema.kind named with
  | .raw =>
    match value with
    | .string s | .member s => pure s
    | other => pure other.display
  | .primitive =>
    match named with
    | .named _ name => ((primitive? name value).map pure).getD (.error (mismatch value type))
    | .collection _ => .error (mismatch value type)
  | .enum e => ((enumMember? e value).map pure).getD (.error (mismatch value type))
  | .complex _ => .error (mismatch value type)

mutual

/-- Null and raw text fit every type; the items of a list are written with the element type. -/
def serialize (schema : Schema) : Value → TypeRef → Except Error String
  | .null, _ => .ok "null"
  | .raw text, _ => .ok text
  | .list items, type =>
    let element := type.elementOrSelf
    if element.isCollection then .error (.nestedCollection type.text)
    else do
      let parts ← serializeItems schema items element
      pure ("(" ++ Text.joined "," parts ++ ")")
  | value, type => scalar schema value type

def serializeItems (schema : Schema) : List Value → TypeRef → Except Error (List String)
  | [], _ => .ok []
  | item :: rest, element => do
    let first ← serialize schema item element
    let others ← serializeItems schema rest element
    pure (first :: others)

end

end Literal
end ODataRequest
