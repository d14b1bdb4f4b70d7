import ODataRequest.Address.Json
import ODataRequest.Text.Blank
namespace ODataRequest

structure ClientConfig where
  root : String := ""
  urlEncode : Bool := true
  keyStyle : KeyStyle := .parenthesized
  ignoreWarnings : Bool := false
  deriving DecidableEq

inductive ConfigError
  | notAnObject
  | missingRoot
  | unsoundField
  deriving DecidableEq

def ConfigError.code : ConfigError → String
  | notAnObject => "InvalidStructure"
  | missingRoot => "MissingUriRoot"
  | unsoundField => "InvalidConfig"

def ConfigError.message : ConfigError → String
  | notAnObject => "client config must be an object"
  | missingRoot => "missing 'uri_root' in client config"
  | unsoundField => "invalid client config"

namespace ClientConfig

def ofRoot (root : String) : ClientConfig := { root := root }

def mappingOptions (config : ClientConfig) : MappingOptions :=
  ⟨config.urlEncode, config.ignoreWarnings⟩

def fieldNames : List String := ["uri_root", "url_encode", "key_style", "ignore_warnings"]

/-- Every field has a default; no other fields are admitted. -/
def ofJson? (json : Json) : Option ClientConfig := do
  let record ← JsonRecord.ofClosedJson? fieldNames json
  let root ← record.defaulted "uri_root" "" Json.string?
  let urlEncode ← record.defaulted "url_encode" true Json.bool?
  let keyStyle ← record.defaulted "key_style" .parenthesized KeyStyle.ofJson?
  let ignoreWarnings ← record.defaulted "ignore_warnings" false Json.bool?
  pure ⟨root, urlEncode, keyStyle, ignoreWarnings⟩

def toJson (config : ClientConfig) : Json :=
  .ofFields [("uri_root", .string config.root), ("url_encode", .bool config.urlEncode),
    ("key_style", config.keyStyle.toJson), ("ignore_warnings", .bool config.ignoreWarnings)]

def load : Json → Except ConfigError ClientConfig
  | .object fields =>
    match ofJson? (.object fields) with
    | none => .error .unsoundField
    | some config =>
      if config.root.toList.all Text.isBlank then .error .missingRoot else .ok config
  | _ => .error .notAnObject

end ClientConfig
end ODataRequest
