import ODataRequest.EntitySet.Basic
import ODataRequest.Schema.Json
namespace ODataRequest

namespace FunctionParameter

def ofJson? (json : Json) : Option FunctionParameter := do
  let record ← JsonRecord.ofJson? ["name", "type"] json
  let name ← record.required "name" Json.string?
  let type ← record.required "type" (TypeRef.ofJson? false)
  pure ⟨name, type⟩

def toJson (p : FunctionParameter) : Json :=
  .ofFields [("name", .string p.name), ("type", p.type.toJson)]

end FunctionParameter

namespace BoundFunction

def ofJson? (json : Json) : Option BoundFunction := do
  let record ← JsonRecord.ofJson?
    ["namespace", "name", "binding", "parameters", "returnType"] json
  let scope ← record.required "namespace" Json.string?
  let name ← record.required "name" Json.string?
  let binding ← record.required "binding" (TypeRef.ofJson? false)
  let parameters ← record.defaulted "parameters" [] (Json.list? FunctionParameter.ofJson?)
  let result ← record.required "returnType" (TypeRef.ofJson? false)
  pure ⟨scope, name, binding, parameters, result⟩

def toJson (f : BoundFunction) : Json :=
  .ofFields [("namespace", .string f.scope), ("name", .string f.name),
    ("binding", f.binding.toJson),
    ("parameters", .array (f.parameters.map FunctionParameter.toJson)),
    ("returnType", f.result.toJson)]

end BoundFunction

namespace EntitySet

def ofJson? (json : Json) : Option EntitySet := do
  let record ← JsonRecord.ofJson?
    ["name", "containerName", "namespace", "forType", "isSingleton", "functions"] json
  let name ← record.required "name" Json.string?
  let container ← record.required "containerName" Json.string?
  let scope ← record.required "namespace" Json.string?
  let type ← record.required "forType" (TypeRef.ofJson? false)
  let singleton ← record.defaulted "isSingleton" false Json.bool?
  let functions ← record.defaulted "functions" [] (Json.list? BoundFunction.ofJson?)
  pure ⟨name, container, scope, type, singleton, functions⟩

def toJson (set : EntitySet) : Json :=
  .ofFields [("name", .string set.name), ("containerName", .string set.container),
    ("namespace", .string set.scope), ("forType", set.entityType.toJson),
    ("isSingleton", .bool set.singleton),
    ("functions", .array (set.functions.map BoundFunction.toJson))]

end EntitySet
end ODataRequest
