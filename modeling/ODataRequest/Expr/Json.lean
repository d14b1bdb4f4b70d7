import ODataRequest.Expr.Basic
import ODataRequest.Signature.Json
import ODataRequest.Value.Json
namespace ODataRequest

def RootSymbol.toJson (symbol : RootSymbol) : Json :=
  .ofFields [("node", .string "root"), ("context", .ofOptionalText symbol.context),
    ("type", .string symbol.result.text), ("custom", .bool symbol.custom)]

def Formatter.kindName : Formatter → String
  | item _ => "scalar"
  | list _ => "list"

namespace Expr

def constantJson (content : String × Json) (type : Option TypeRef) : Json :=
  .ofFields [("node", .string "const"), ("const", .ofFields [content]),
    ("type", .ofOptionalText (type.map TypeRef.text))]

def bindingsJson (bindings : Table TypeRef) : Json :=
  .array (bindings.entries.map fun entry => .ofStrings [entry.1, entry.2.text])

mutual

def toJson : Expr → Json
  | root symbol => symbol.toJson
  | property parent name result =>
    .ofFields [("node", .string "prop"), ("name", .string name),
      ("type", .string result.text), ("parent", optionalToJson parent)]
  | call ⟨receiver, args, signature, bindings⟩ =>
    .ofFields [("node", .string "call"), ("signature", .string signature.text),
      ("style", signature.layout.toJson), ("this", optionalToJson receiver),
      ("args", .array (argsToJson args)), ("bindings", bindingsJson bindings)]
  | value v type => constantJson ("value", v.toJson) type
  | aliased param type => constantJson ("param", .string param.name) type
  | directive d =>
    let fields := ("kind", .string d.kind.text) :: directiveFields d
    constantJson ("rewrite", .ofFields fields) none
  | inContext inner context =>
    .ofFields [("node", .string "re_context"), ("context", .string context),
      ("inner", inner.toJson)]
  | named inner symbol =>
    .ofFields [("node", .string "named"), ("root", symbol.toJson), ("inner", inner.toJson)]
  | assembled parts result =>
    .ofFields [("node", .string "builder"), ("type", .string result.text),
      ("parts", .array (partsToJson parts))]

def optionalToJson : Option Expr → Json
  | none => .null
  | some e => e.toJson

def argsToJson : List (Expr × Parameter) → List Json
  | [] => []
  | (e, p) :: rest => .array [.string p.text, e.toJson] :: argsToJson rest

def pathsToJson : List (String × Expr) → List Json
  | [] => []
  | (name, e) :: rest => .array [.string name, e.toJson] :: pathsToJson rest

def partsToJson : List Part → List Json
  | [] => []
  | .text text :: rest => .string text :: partsToJson rest
  | .expr e :: rest => e.toJson :: partsToJson rest

def directiveFields : Directive → List (String × Json)
  | .customName name => [("name", .string name)]
  | .format written =>
    [("type", .string written.elementType.text), ("map", .string written.formatter.kindName)]
  | .rawPaths paths => [("props", .array (pathsToJson paths))]
  | .result type => [("output", .string type.name)]
  | .subQueries _ | .countOption | .rawText _ => []

end

end Expr
end ODataRequest
