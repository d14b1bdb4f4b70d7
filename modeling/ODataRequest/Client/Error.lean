import ODataRequest.Error
import ODataRequest.Http.Status
namespace ODataRequest

inductive ClientError
  | query (e : Error)
  | unsoundTarget (text : String)
  | transport (reason : String)
  | status (code : Status) (body : String) (contentType : Option String)
  | unsoundJson
  | notAnInteger (text : String)
  | unsoundText
  deriving DecidableEq

def ClientError.code : ClientError → String
  | query e => e.code
  | unsoundTarget _ => "Request"
  | transport _ => "Fetch"
  | status .. => "HttpStatus"
  | unsoundJson => "Json"
  | notAnInteger _ => "InvalidInteger"
  | unsoundText => "InvalidUtf8"

def ClientError.message : ClientError → String
  | query e => e.message
  | unsoundTarget text => s!"Failed to build request: {text}"
  | transport reason => s!"Transport error: {reason}"
  | status code body _ => s!"HTTP {code.text}: {body}"
  | unsoundJson => "JSON parsing failed"
  | notAnInteger text => s!"expected an integer response, got '{text}'"
  | unsoundText => "response body is not valid UTF-8"

end ODataRequest
