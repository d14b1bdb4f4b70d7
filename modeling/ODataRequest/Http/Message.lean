import ODataRequest.Http.Headers
import ODataRequest.Http.Status
import ODataRequest.Http.Target
namespace ODataRequest

/-- A request for a resource. Only reading is offered, so there is one method and no body. -/
structure Request where
  target : RequestTarget
  headers : Headers

def Request.method (_ : Request) : String := "GET"

structure Response where
  status : Status
  contentType : Option (List UInt8)
  body : List UInt8
  deriving DecidableEq

/-- A content type counts if it holds visible ASCII, blanks and tabs only. -/
def Response.contentTypeText? (response : Response) : Option String :=
  response.contentType.bind fun octets =>
    if octets.all fun octet => (0x20 ≤ octet && octet < 0x7F) || octet == 0x09 then
      some (String.ofList (octets.map fun octet => Char.ofNat octet.toNat))
    else none

end ODataRequest
