import ODataRequest.TypeRef
import ODataRequest.Text.Percent
import ODataRequest.Text.Replace
namespace ODataRequest

inductive Accept
  | json
  | integer
  | raw
  deriving DecidableEq

/-- The parts of a finished address. The pairs of the query stand in order, aliases last. -/
structure Address where
  root : String
  container : Option String
  entitySet : Option String
  path : String
  query : List (String × String)
  deriving DecidableEq

structure Target where
  accept : Accept
  type : TypeRef
  address : Address
  deriving DecidableEq

def queryPair (encode : Bool) (pair : String × String) : String :=
  pair.1 ++ "=" ++ if encode then Text.encodeComponent pair.2 else pair.2

/-- Keys stand as they are; values are percent-encoded if wanted. -/
def queryString (encode : Bool) (pairs : List (String × String)) : String :=
  Text.joined "&" (pairs.map (queryPair encode))

namespace Address

def queryString (address : Address) (encode : Bool) : String :=
  ODataRequest.queryString encode address.query

def text (address : Address) (encode : Bool) : String :=
  let location := Text.dropTrailing '/' address.root ++ "/" ++ Text.dropLeading '/' address.path
  if address.query.isEmpty then location else location ++ "?" ++ address.queryString encode

def queryValue? (address : Address) (key : String) : Option String :=
  (address.query.find? fun pair => pair.1 == key).map Prod.snd

end Address
end ODataRequest
