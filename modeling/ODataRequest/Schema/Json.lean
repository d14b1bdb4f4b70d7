import ODataRequest.Json.Record
import ODataRequest.Schema.Validation
namespace ODataRequest

namespace TypeRef

def kinds : List String := ["single", "collection"]

mutual

def ofJson? (inside : Bool) : Json → Option TypeRef
  | .object fields =>
    match (lookupNamed "kind" fields).bind (Json.tagName? kinds inside) with
    | some "single" => do
      let scope ← (lookupNamed "namespace" fields).bind Json.string?
      let name ← (lookupNamed "name" fields).bind Json.string?
      pure (.named scope name)
    | some "collection" => (elementOfFields? fields).map .collection
    | _ => none
  | .array [tag, scope, name] =>
    if Json.tagName? kinds inside tag = some "single" then do
      pure (.named (← scope.string?) (← name.string?))
    else none
  | .array [tag, element] =>
    if Json.tagName? kinds inside tag = some "collection" then
      (ofJson? true element).map .collection
    else none
  | _ => none

def elementOfFields? : List (String × Json) → Option TypeRef
  | [] => none
  | (name, json) :: rest => if name = "element" then ofJson? true json else elementOfFields? rest

end

def toJson : TypeRef → Json
  | named scope name =>
    .ofFields [("kind", .string "single"), ("namespace", .string scope), ("name", .string name)]
  | collection element => .ofFields [("kind", .string "collection"), ("element", element.toJson)]

end TypeRef

namespace PrimitiveType

def ofJson? : Json → Option PrimitiveType := Json.choice? (all.map fun type => (type.name, type))

def toJson (type : PrimitiveType) : Json := .string type.name

end PrimitiveType

namespace Property

def ofJson? (inside : Bool) (json : Json) : Option Property := do
  let record ← JsonRecord.ofJson? ["type", "nullable", "navigation"] json
  let type ← record.required "type" (TypeRef.ofJson? inside)
  let nullable ← record.defaulted "nullable" false Json.bool?
  let navigation ← record.defaulted "navigation" false Json.bool?
  pure ⟨type, nullable, navigation⟩

def toJson (p : Property) : Json :=
  .ofFields [("type", p.type.toJson), ("nullable", .bool p.nullable),
    ("navigation", .bool p.navigation)]

end Property

namespace ComplexType

def ofJson? (json : Json) : Option ComplexType := do
  let record ← JsonRecord.ofJson? ["namespace", "name", "baseType", "key", "properties"] json
  let scope ← record.required "namespace" Json.string?
  let name ← record.required "name" Json.string?
  let base ← record.defaulted "baseType" none (JsonRecord.readNullable (TypeRef.ofJson? true))
  let key ← record.defaulted "key" none (JsonRecord.readNullable (Json.list? Json.string?))
  let properties ← record.defaulted "properties" .empty (Json.table? (Property.ofJson? true))
  pure ⟨scope, name, base, key, properties⟩

def toJson (c : ComplexType) : Json :=
  let base := c.base.toList.map fun type => ("baseType", type.toJson)
  let key := c.key.toList.map fun names => ("key", Json.array (names.map .string))
  let properties := c.properties.entries.map fun entry => (entry.1, entry.2.toJson)
  .ofFields ([("kind", .string "complex"), ("namespace", .string c.scope),
    ("name", .string c.name), ("properties", .ofFields properties)] ++ base ++ key)

end ComplexType

namespace EnumType

def ofJson? (json : Json) : Option EnumType := do
  let record ← JsonRecord.ofJson? ["namespace", "name", "members", "flags"] json
  let scope ← record.required "namespace" Json.string?
  let name ← record.required "name" Json.string?
  let members ← record.required "members" (Json.table? Json.int64?)
  let flags ← record.defaulted "flags" false Json.bool?
  pure ⟨scope, name, members, flags⟩

def toJson (e : EnumType) : Json :=
  let members := e.members.entries.map fun entry => (entry.1, Json.ofInt entry.2)
  .ofFields [("kind", .string "enum"), ("namespace", .string e.scope), ("name", .string e.name),
    ("members", .ofFields members), ("flags", .bool e.flags)]

end EnumType

namespace SchemaType

def ofJson? (json : Json) : Option SchemaType := do
  let (kind, fields) ← json.tagged? "kind" ["complex", "enum"] false
  if kind = "complex" then (ComplexType.ofJson? fields).map .complex
  else (EnumType.ofJson? fields).map .enum

def toJson : SchemaType → Json
  | complex c => c.toJson
  | enum e => e.toJson

end SchemaType

namespace Schema

def typesOfJson? (json : Json) : Option (List SchemaType) := do
  let record ← JsonRecord.ofJson? ["types"] json
  record.required "types" (Json.list? SchemaType.ofJson?)

def ofJson? (json : Json) : Option Schema := do
  (ofTypes (← typesOfJson? json)).toOption

def toJson (schema : Schema) : Json :=
  .ofFields [("types", .array (schema.types.map SchemaType.toJson))]

end Schema
end ODataRequest
