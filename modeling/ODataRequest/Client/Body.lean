import ODataRequest.Address.Json
import ODataRequest.Client.Error
import ODataRequest.Http.Message
import ODataRequest.Json.Printer
import ODataRequest.Json.Reader
import ODataRequest.Logged
import ODataRequest.Text.Blank
import ODataRequest.Text.Utf8
namespace ODataRequest

inductive Body
  | json (document : Json)
  | integer (i : Int)
  | text (content : String)

namespace Body

def integer? : Body → Option Int
  | integer i => some i
  | json document => document.int64?
  | text _ => none

def text? : Body → Option String
  | text content => some content
  | _ => none

def toJson? : Body → Option Json
  | json document => some document
  | integer i => some (.ofInt i)
  | text content => Json.ofText? content

end Body

def Accept.header : Accept → String
  | json | integer => "application/json"
  | raw => "text/plain"

structure Expectation where
  accept : Accept
  ignoreWarnings : Bool := false
  deriving DecidableEq

/-- How many octets of the body a status error keeps. -/
def previewLimit : Nat := 8192

abbrev Parsed := Logged ClientError Body

namespace Response

def statusError (response : Response) : ClientError :=
  .status response.status (Text.ofUtf8Lossy (response.body.take previewLimit))
    response.contentTypeText?

def isJson (response : Response) : Bool :=
  response.contentTypeText?.any fun type => Text.occursIn "json".toList type.toList

/-- A count may come as a JSON number or as plain text. -/
def mismatches (response : Response) : Accept → Bool
  | .json => !response.isJson
  | .raw => response.isJson
  | .integer => false

def warnMismatch (response : Response) (expected : Expectation) : Logged ClientError Unit :=
  if !expected.ignoreWarnings && response.mismatches expected.accept then
    .warn (.contentTypeMismatch expected.accept.header
      (response.contentTypeText?.getD "<none>"))
  else pure ()

def jsonBody (octets : List UInt8) (accept : Accept) : Except ClientError Body :=
  match (Text.ofUtf8? octets).bind Json.ofText? with
  | none => .error .unsoundJson
  | some json =>
    if accept = .integer then
      match json.int64? with
      | some i => .ok (.integer i)
      | none => .error (.notAnInteger json.text)
    else .ok (.json json)

def readInt64? (chars : List Char) : Option Int :=
  (readInteger? chars).filter fitsSigned64

def textBody (octets : List UInt8) (accept : Accept) : Except ClientError Body :=
  match Text.ofUtf8? octets with
  | none => .error .unsoundText
  | some text =>
    if accept = .integer then
      let trimmed := Text.trimmed text.toList
      match readInt64? trimmed with
      | some i => .ok (.integer i)
      | none => .error (.notAnInteger (String.ofList trimmed))
    else .ok (.text text)

def parse (response : Response) (expected : Expectation) : Parsed := do
  if !response.status.isSuccess then .fail response.statusError
  else
    response.warnMismatch expected
    .ofExcept ((if response.isJson then jsonBody else textBody) response.body expected.accept)

end Response

/-- Parses a response, or leaves that to the interceptors behind it. -/
abbrev ResponseInterceptor := Response → Expectation → (Response → Parsed) → Parsed

/-- Runs interceptors in order; behind the last one stands the library's own parser. -/
def runInterceptors : List ResponseInterceptor → Response → Expectation → Parsed
  | [], response, expected => response.parse expected
  | first :: rest, response, expected =>
    first response expected fun response => runInterceptors rest response expected

end ODataRequest
