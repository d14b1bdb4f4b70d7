import ODataRequest.Clause.Basic
import ODataRequest.Cursor
import ODataRequest.EntitySet.Basic
namespace ODataRequest

inductive KeyStyle
  | parenthesized
  | segment
  deriving DecidableEq

inductive KeyValue
  | single (value : Value)
  | composite (pairs : List (String × Value))

/-- A key to be written, or text that stands in the parentheses as it is. -/
inductive KeySelection
  | styled (style : KeyStyle) (key : KeyValue)
  | raw (text : String)

inductive ResourcePart
  | container (name : String)
  | entitySet (set : EntitySet)
  | key (key : KeySelection)
  | property (name : String)
  | count
  | value
  | cast (target : String)
  | function (name : String) (arguments : List (String × Value))
  | query (clauses : List Clause)

namespace ResourcePart

def description : ResourcePart → String
  | container name => s!"container '{name}'"
  | entitySet set => s!"entity set '{set.name}'"
  | key _ => "a key"
  | property name => s!"property '{name}'"
  | count => "$count"
  | value => "$value"
  | cast target => s!"a cast to '{target}'"
  | function name _ => s!"function '{name}'"
  | query _ => "a query"

def isQuery : ResourcePart → Bool
  | query _ => true
  | _ => false

end ResourcePart

def PathStep.part (step : PathStep) : ResourcePart :=
  match step.kind with
  | .property | .navigation => .property step.name
  | .cast => .cast step.name
  | .count => .count
  | .value => .value

def Cursor.parts (cursor : Cursor) : List ResourcePart := cursor.path.map PathStep.part

/-- The parts added so far; nothing but queries follows a query. -/
structure ResourceParts where
  parts : List ResourcePart

namespace ResourceParts

def empty : ResourceParts := ⟨[]⟩

def hasQuery (resource : ResourceParts) : Bool := resource.parts.any ResourcePart.isQuery

def push (resource : ResourceParts) (part : ResourcePart) : Except Error ResourceParts :=
  if resource.hasQuery && !part.isQuery then .error (.partAfterQuery part.description)
  else .ok ⟨resource.parts ++ [part]⟩

def pushAll (resource : ResourceParts) (parts : List ResourcePart) : Except Error ResourceParts :=
  parts.foldlM push resource

end ResourceParts
end ODataRequest
