import ODataRequest.Json.Token
namespace ODataRequest

/-!
Reading JSON. The tokens are taken one by one; containers that are not complete yet wait as
frames, the innermost first.
-/

/-- A container part way through. The items of an array are kept in reverse. -/
inductive JsonFrame
  | array (items : List Json)
  | object (fields : List (String × Json))
  | field (fields : List (String × Json)) (name : String)

inductive JsonStage
  | value
  | firstItem
  | firstName
  | name
  | colon
  | separator

inductive JsonState
  | reading (stage : JsonStage) (frames : List JsonFrame)
  | finished (json : Json)

namespace JsonState

def start : JsonState := reading .value []

/-- Containers may be nested to a depth of 127. -/
def depthLimit : Nat := 128

def enter (stage : JsonStage) (frame : JsonFrame) (frames : List JsonFrame) : Option JsonState :=
  if frames.length + 1 < depthLimit then some (reading stage (frame :: frames)) else none

def deliver (json : Json) : List JsonFrame → Option JsonState
  | [] => some (finished json)
  | .array items :: frames => some (reading .separator (.array (json :: items) :: frames))
  | .field fields name :: frames =>
    some (reading .separator (.object (insertNamed name json fields) :: frames))
  | .object _ :: _ => none

def takeValue (frames : List JsonFrame) : JsonToken → Option JsonState
  | .scalar json => deliver json frames
  | .beginArray => enter .firstItem (.array []) frames
  | .beginObject => enter .firstName (.object []) frames
  | _ => none

def takeName (frames : List JsonFrame) (token : JsonToken) : Option JsonState :=
  match token, frames with
  | .scalar (.string name), .object fields :: frames =>
    some (reading .colon (.field fields name :: frames))
  | _, _ => none

def close (frames : List JsonFrame) (token : JsonToken) : Option JsonState :=
  match token, frames with
  | .endArray, .array items :: frames => deliver (.array items.reverse) frames
  | .endObject, .object fields :: frames => deliver (.object fields) frames
  | _, _ => none

def step (state : JsonState) (token : JsonToken) : Option JsonState :=
  match state with
  | finished _ => none
  | reading .value frames => takeValue frames token
  | reading .firstItem frames => (close frames token).or (takeValue frames token)
  | reading .firstName frames => (close frames token).or (takeName frames token)
  | reading .name frames => takeName frames token
  | reading .colon frames =>
    match token with
    | .colon => some (reading .value frames)
    | _ => none
  | reading .separator frames =>
    match token, frames with
    | .comma, .array _ :: _ => some (reading .value frames)
    | .comma, .object _ :: _ => some (reading .name frames)
    | token, frames => close frames token

end JsonState

namespace Json

def ofChars? (chars : List Char) : Option Json := do
  match ← (← JsonToken.all? chars).foldlM JsonState.step .start with
  | .finished json => some json
  | .reading _ _ => none

def ofText? (text : String) : Option Json := ofChars? text.toList

end Json
end ODataRequest
