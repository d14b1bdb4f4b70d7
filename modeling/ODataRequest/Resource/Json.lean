import ODataRequest.Address.Json
import ODataRequest.Value.Json
namespace ODataRequest

def namedValue? : Json → Option (String × Value)
  | .array [.string name, value] => (Value.ofJson? value).map fun v => (name, v)
  | _ => none

def KeyValue.ofJson? (json : Json) : Option KeyValue :=
  match json.present? "single", json.present? "composite" with
  | some value, _ => (Value.ofJson? value).map .single
  | none, some values => (Json.list? namedValue? values).map .composite
  | none, none => some (.composite [])

/-- The style that a key names, or else the usual one. A key in its own words has no style. -/
def KeySelection.styleOfJson? (usual : KeyStyle) (json : Json) : Option KeyStyle :=
  match json.text? "raw", json.present? "style" with
  | none, some style => KeyStyle.ofJson? style
  | _, _ => some usual

def KeySelection.ofJson? (style : KeyStyle) (json : Json) : Option KeySelection :=
  match json.text? "raw" with
  | some text => some (.raw text)
  | none => (KeyValue.ofJson? json).map (.styled style)

def argumentsOfJson? : List Json → Option (List (String × Value))
  | [] | .null :: _ => some []
  | arguments :: _ => Json.list? namedValue? arguments

def ResourcePart.ofJson? (style : KeyStyle) : Json → Option ResourcePart
  | .array (.string kind :: content) =>
    match kind, content with
    | "container", .string name :: _ => some (.container name)
    | "key", json :: _ => (KeySelection.ofJson? style json).map .key
    | "key", [] => some (.key (.styled style (.composite [])))
    | "raw_key", .string text :: _ => some (.key (.raw text))
    | "property", .string name :: _ => some (.property name)
    | "count", _ => some .count
    | "value", _ => some .value
    | "cast", .string target :: _ => some (.cast target)
    | "function", .string name :: arguments =>
      (argumentsOfJson? arguments).map (.function name)
    | _, _ => none
  | _ => none

end ODataRequest
