import ODataRequest.Address
import ODataRequest.Resource.Mapping
import ODataRequest.Schema.Json
namespace ODataRequest

namespace Accept

def names : List (String × Accept) := [("json", json), ("integer", integer), ("raw", raw)]

def name : Accept → String
  | json => "json"
  | integer => "integer"
  | raw => "raw"

def ofJson? : Json → Option Accept := Json.choice? names

def toJson (accept : Accept) : Json := .string accept.name

end Accept

namespace KeyStyle

def name : KeyStyle → String
  | parenthesized => "function_call"
  | segment => "path_segment"

def ofJson? : Json → Option KeyStyle :=
  Json.choice? [("function_call", parenthesized), ("path_segment", segment)]

def toJson (style : KeyStyle) : Json := .string style.name

end KeyStyle

namespace MappingOptions

def ofJson? (json : Json) : Option MappingOptions := do
  let record ← JsonRecord.ofJson? ["urlEncode", "ignoreWarnings"] json
  let urlEncode ← record.defaulted "urlEncode" true Json.bool?
  let ignoreWarnings ← record.defaulted "ignoreWarnings" false Json.bool?
  pure ⟨urlEncode, ignoreWarnings⟩

def toJson (options : MappingOptions) : Json :=
  .ofFields [("urlEncode", .bool options.urlEncode),
    ("ignoreWarnings", .bool options.ignoreWarnings)]

end MappingOptions

namespace Address

def pairOfJson? : Json → Option (String × String)
  | .array [.string key, .string value] => some (key, value)
  | _ => none

def ofJson? (json : Json) : Option Address := do
  let record ← JsonRecord.ofJson?
    ["uriRoot", "entitySetContainerName", "entitySetName", "relativePath", "query"] json
  let root ← record.required "uriRoot" Json.string?
  let container ← record.nullable "entitySetContainerName" Json.string?
  let entitySet ← record.nullable "entitySetName" Json.string?
  let path ← record.required "relativePath" Json.string?
  let query ← record.required "query" (Json.list? pairOfJson?)
  pure ⟨root, container, entitySet, path, query⟩

def toJson (address : Address) : Json :=
  .ofFields [("uriRoot", .string address.root),
    ("entitySetContainerName", .ofOptionalText address.container),
    ("entitySetName", .ofOptionalText address.entitySet),
    ("relativePath", .string address.path),
    ("query", .array (address.query.map fun pair => .ofStrings [pair.1, pair.2]))]

end Address

namespace Target

def ofJson? (json : Json) : Option Target := do
  let record ← JsonRecord.ofJson? ["accept", "typeRef", "parts"] json
  let accept ← record.required "accept" Accept.ofJson?
  let type ← record.required "typeRef" (TypeRef.ofJson? false)
  let address ← record.required "parts" Address.ofJson?
  pure ⟨accept, type, address⟩

def toJson (target : Target) : Json :=
  .ofFields [("accept", target.accept.toJson), ("typeRef", target.type.toJson),
    ("parts", target.address.toJson)]

def report (target : Target) : Json :=
  let address := target.address
  .ofFields [("accept", target.accept.toJson), ("typeRef", .string target.type.text),
    ("parts", address.toJson), ("relativePath", .string address.path),
    ("queryString", .ofStrings [address.queryString true, address.queryString false]),
    ("uri", .ofStrings [address.text true, address.text false])]

end Target
end ODataRequest
