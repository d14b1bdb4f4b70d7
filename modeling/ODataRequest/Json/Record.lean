import ODataRequest.Json.Basic
import ODataRequest.TypeRef
namespace ODataRequest

/-!
Reading records out of JSON. A record stands as an object, or as an array of its fields in
declared order. Unknown fields of an object are ignored unless the record is closed; a field
that may be missing has a default.
-/

structure JsonRecord where
  positional : Bool
  fields : List (String × Option Json)

namespace JsonRecord

/-- Looks up the declared fields. An array must not be longer than the record. -/
def ofJson? (names : List String) : Json → Option JsonRecord
  | .object fields => some ⟨false, names.map fun name => (name, lookupNamed name fields)⟩
  | .array items =>
    if items.length ≤ names.length then
      some ⟨true, (names.zip (items.map some ++ List.replicate names.length none))⟩
    else none
  | _ => none

def ofClosedJson? (names : List String) (json : Json) : Option JsonRecord :=
  match json with
  | .object fields =>
    if fields.all fun entry => names.contains entry.1 then ofJson? names json else none
  | json => ofJson? names json

def get? (record : JsonRecord) (name : String) : Option Json :=
  (lookupNamed name record.fields).join

variable {α : Type}

def required (record : JsonRecord) (name : String) (read : Json → Option α) : Option α :=
  (record.get? name).bind read

def defaulted (record : JsonRecord) (name : String) (default : α) (read : Json → Option α) :
    Option α :=
  match record.get? name with
  | none => some default
  | some json => read json

def readNullable (read : Json → Option α) : Json → Option (Option α)
  | .null => some none
  | json => (read json).map some

/-- A field that may be null, and may be missing from an object but not from an array. -/
def nullable (record : JsonRecord) (name : String) (read : Json → Option α) :
    Option (Option α) :=
  match record.get? name with
  | none => if record.positional then none else some none
  | some json => readNullable read json

end JsonRecord

namespace Json

variable {α : Type}

def list? (read : Json → Option α) (json : Json) : Option (List α) :=
  json.array?.bind fun items => items.mapM read

def table? (read : Json → Option α) : Json → Option (Table α)
  | object fields =>
    (fields.mapM fun entry => (read entry.2).map fun value => (entry.1, value)).map Table.ofList
  | _ => none

/-- One of several names. A name stands as a string or as the only field, with a null value. -/
def choice? (names : List (String × α)) : Json → Option α
  | string name => lookupNamed name names
  | object [(name, null)] => lookupNamed name names
  | _ => none

/-- The name of an alternative. Inside of another alternative its position may stand for it. -/
def tagName? (names : List String) (inside : Bool) : Json → Option String
  | string name => if names.contains name then some name else none
  | number (.integer i) => if inside && decide (0 ≤ i) then names[i.toNat]? else none
  | _ => none

/-- The name of an alternative and the fields that go with it. In an array the name comes first. -/
def tagged? (tag : String) (names : List String) (inside : Bool) : Json → Option (String × Json)
  | object fields =>
    ((lookupNamed tag fields).bind (tagName? names inside)).map fun name =>
      (name, object (fields.filter fun entry => entry.1 != tag))
  | array (first :: rest) => (tagName? names inside first).map fun name => (name, array rest)
  | _ => none

end Json
end ODataRequest
