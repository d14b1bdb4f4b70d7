import ODataRequest.Client.Basic
import ODataRequest.Error.Json
namespace ODataRequest

/-- The messages of errors that stem from malformed octets are not part of the report. -/
def ClientError.toJson (e : ClientError) : Json :=
  match e with
  | unsoundTarget _ | unsoundJson | unsoundText => .ofError e.code none
  | status code body contentType =>
    .ofFields [("error", .string e.code), ("message", .string e.message),
      ("status", .ofInt code.code), ("body", .string body),
      ("content_type", .ofOptionalText contentType)]
  | e => .ofError e.code (some e.message)

def ConfigError.toJson (e : ConfigError) : Json :=
  match e with
  | unsoundField => .ofError e.code none
  | e => .ofError e.code (some e.message)

def Headers.toJson (headers : Headers) : Json :=
  .array (headers.values.entries.map fun entry => .ofStrings [entry.1, entry.2])

def Request.toJson (request : Request) : Json :=
  .ofFields [("method", .string request.method), ("uri", .string request.target.text),
    ("headers", request.headers.toJson)]

def Body.toJson : Body → Json
  | json document => document
  | integer i => .ofInt i
  | text content => .string content

def Body.toTaggedJson : Body → Json
  | json document => .ofFields [("json", document)]
  | integer i => .ofFields [("integer", .ofInt i)]
  | text content => .ofFields [("text", .string content)]

def jsonOrError (json : Option Json) : Json :=
  match json with
  | some json => .success json
  | none => ClientError.unsoundJson.toJson

def Body.report (body : Body) : Json :=
  let texts := body.toJson?.bind (Json.list? Json.string?)
  .ofFields [("body", body.toTaggedJson), ("as_integer", .ofOption (body.integer?.map Json.ofInt)),
    ("as_text", .ofOptionalText body.text?), ("as_json", jsonOrError body.toJson?),
    ("as_strings", jsonOrError (texts.map Json.ofStrings))]

end ODataRequest
