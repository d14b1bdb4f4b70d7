import ODataRequest.Client.Basic
import ODataRequest.Text.Record
namespace ODataRequest

def TypeRef.description : TypeRef → String
  | named scope name =>
    Text.logRecord "Single"
      [("namespace", Text.logString scope), ("name", Text.logString name)] false
  | collection element => Text.logRecord "Collection" [("element", element.description)] false

def DirectiveOf.description {ε : Type} : DirectiveOf ε → String
  | customName name => "CustomQuery(" ++ Text.logString name ++ ")"
  | subQueries _ => "ExpandAnd(<fn>)"
  | countOption => "ExpandCount"
  | format written =>
    Text.logRecord "Mapper" [("element_type", written.elementType.description)] true
  | rawPaths paths =>
    "FilterRawProps(" ++ Text.logList (paths.map fun path => Text.logString path.1) ++ ")"
  | rawText _ => "FilterRawExecutor(<fn>)"
  | result type => "OutputType(" ++ type.name ++ ")"

def KeyStyle.description : KeyStyle → String
  | parenthesized => "FunctionCall"
  | segment => "PathSegment"

def MappingOptions.description (options : MappingOptions) : String :=
  Text.logRecord "UriOptions" [("url_encode", Text.logBool options.urlEncode),
    ("ignore_warnings", Text.logBool options.ignoreWarnings)] false

def Mapping.description (mapping : Mapping) : String :=
  Text.logRecord "UriMapper" [("options", mapping.options.description)] true

def ClientConfig.description (config : ClientConfig) : String :=
  Text.logRecord "ClientConfig" [("uri_root", Text.logString config.root),
    ("url_encode", Text.logBool config.urlEncode), ("key_style", config.keyStyle.description),
    ("ignore_warnings", Text.logBool config.ignoreWarnings)] false

def Tools.description (tools : Tools) : String :=
  Text.logRecord "RequestTools" [("uri_interceptor", Text.logBool tools.writeAddress.isSome),
    ("request_interceptor", Text.logBool tools.adjustRequest.isSome),
    ("response_interceptor", Text.logBool tools.interceptResponse.isSome),
    ("ignore_warnings", Text.logBool tools.ignoreWarnings)] true

def Client.description (client : Client) : String :=
  Text.logRecord "ODataClient" [("config", client.config.description),
    ("tools", client.tools.description)] true

def RequestDraft.description (draft : RequestDraft) : String :=
  Text.logRecord "EntitySetClient" [("entity_set", Text.logString draft.set.name),
    ("parts", numeral draft.resource.parts.length)] true

end ODataRequest
