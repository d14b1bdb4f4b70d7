import ODataRequest.Error
import ODataRequest.Json.Basic
namespace ODataRequest

namespace Json

def ofError (code : String) (message : Option String) : Json :=
  .ofFields (("error", .string code) :: message.toList.map fun text => ("message", .string text))

def success (json : Json) : Json := .ofFields [("ok", json)]

def ofOutcome {ε α : Type} (failure : ε → Json) (encode : α → Json) : Except ε α → Json
  | .ok a => success (encode a)
  | .error e => failure e

end Json

def Error.toJson (e : Error) : Json := .ofError e.code (some e.message)

end ODataRequest
