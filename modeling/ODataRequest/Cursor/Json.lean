import ODataRequest.Json.Basic
import ODataRequest.Resource.Part
namespace ODataRequest

def StepKind.name : StepKind → String
  | property => "property"
  | navigation => "navigation"
  | cast => "cast"
  | count => "count"
  | value => "value"

def CursorKind.name : CursorKind → String
  | primitive => "primitive"
  | enum => "enum"
  | complex => "complex"
  | collection => "collection"
  | count => "count"
  | value => "value"

namespace PathStep

def toJson (step : PathStep) : Json :=
  .array [.string step.name, .string step.kind.name, .string step.type.text,
    .bool (step.kind == .navigation)]

def partJson (step : PathStep) : Json :=
  match step.kind with
  | .property | .navigation => .ofStrings ["property", step.name]
  | .cast => .ofStrings ["cast", step.name]
  | .count => .ofStrings ["count"]
  | .value => .ofStrings ["value"]

end PathStep

def Cursor.toJson (cursor : Cursor) : Json :=
  .ofFields [("kind", .string cursor.kind.name), ("type", .string cursor.type.text),
    ("path", .array (cursor.path.map PathStep.toJson)),
    ("root", .ofOptionalText cursor.root.context), ("aliases", .ofStrings cursor.aliases.names),
    ("parts", .array (cursor.path.map PathStep.partJson))]

end ODataRequest
