import ODataRequest.Error.Json
import ODataRequest.Schema.Json
import ODataRequest.Signature.Basic
namespace ODataRequest

namespace QueryOption

def names : List (String × QueryOption) :=
  [("filter", filter), ("select", select), ("expand", expand), ("orderby", orderBy),
    ("search", search), ("top", top), ("skip", skip), ("count", count), ("custom", custom)]

def name : QueryOption → String
  | filter => "filter"
  | select => "select"
  | expand => "expand"
  | orderBy => "orderby"
  | search => "search"
  | top => "top"
  | skip => "skip"
  | count => "count"
  | custom => "custom"

def ofName? (name : String) : Option QueryOption := lookupNamed name names

end QueryOption

def DirectiveKind.ofText? (text : String) : Option DirectiveKind :=
  [.customName, .subQueries, .countOption, .format, .rawPaths, .rawText, .result].find?
    fun kind : DirectiveKind => kind.text == text

namespace Layout

def ofJson? : Json → Option Layout
  | .array [.string "infix", .string operator] => some (between operator)
  | .array [.string "function", .string name] => some (function name)
  | .array [.string "prefix", .string operator] => some (before operator)
  | .array [.string "suffix", .string operator] => some (after operator)
  | .array [.string "joined", .string separator] => some (joined separator)
  | .array (.string "passthrough" :: _) => some plain
  | _ => none

def toJson : Layout → Json
  | between operator => .ofStrings ["infix", operator]
  | function name => .ofStrings ["function", name]
  | before operator => .ofStrings ["prefix", operator]
  | after operator => .ofStrings ["suffix", operator]
  | joined separator => .ofStrings ["joined", separator]
  | plain => .ofStrings ["passthrough"]

end Layout

namespace Parameter

def operandTypeOfJson? (json : Json) : Option OperandType :=
  match json.present? "generic", json.present? "generic_collection", json.present? "type" with
  | some (.string name), _, _ => some (.generic name)
  | _, some (.string name), _ => some (.genericCollection name)
  | _, _, some type => (TypeRef.ofJson? false type).map .concrete
  | _, _, none => some .any

def nullabilityOfJson (json : Json) : Nullability :=
  if json.isSet "non_null" then .nonNull
  else if json.isSet "nullable" then .nullable
  else .inherited

def ofJson? (json : Json) : Option Parameter := do
  let name ← json.text? "name"
  let base ← match json.present? "rewrite" with
    | some kind => do
      let kind ← kind.string?.bind DirectiveKind.ofText?
      pure (directive name kind ((json.text? "descriptor").getD ""))
    | none => do
      let type ← operandTypeOfJson? json
      pure ((operand name type).withNullability (nullabilityOfJson json))
  pure { base with optional := json.isSet "optional", repeated := json.isSet "repeated" }

end Parameter

def Signature.toJson (s : Signature) : Json :=
  .ofFields [("display", .string s.text), ("family", .string s.option.name),
    ("style", s.layout.toJson),
    ("returns", .ofOptionalText (s.result.concrete?.map TypeRef.text)),
    ("origin", .string s.origin.text),
    ("constructed_from", .ofOptionalText (s.constructedFrom.map Signature.text)),
    ("valid", .ofOutcome Error.toJson (fun _ => .null) s.validate)]

def OverloadsOf.toJson (overloads : Overloads) : Json :=
  .ofFields [("name", .string overloads.name),
    ("signatures", .array (overloads.members.map Signature.toJson)),
    ("primary", .ofOptionalText (overloads.primary?.map Signature.text))]

end ODataRequest
