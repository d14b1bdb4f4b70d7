import ODataRequest.Client.Body
import ODataRequest.Client.Config
namespace ODataRequest

/-!
Requests of a client. A draft grows by one part at a time and is mapped after each, so that a
draft in hand always has an address.
-/

/-- What the author of a client brings along. The transport answers a request or says why it
could not. -/
structure Tools where
  transport : Request → Except String Response
  writeAddress : Option (Address → Bool → String) := none
  adjustRequest : Option (Request → Request) := none
  interceptResponse : Option ResponseInterceptor := none
  ignoreWarnings : Bool := false

def Tools.addressText (tools : Tools) (address : Address) (urlEncode : Bool) : String :=
  match tools.writeAddress with
  | some write => write address urlEncode
  | none => address.text urlEncode

structure Client where
  config : ClientConfig
  schema : Schema
  tools : Tools

namespace Client

def ignoreWarnings (client : Client) : Bool :=
  client.config.ignoreWarnings || client.tools.ignoreWarnings

def mapping (client : Client) : Mapping :=
  ⟨client.schema, Literal.serialize,
    { client.config.mappingOptions with ignoreWarnings := client.ignoreWarnings }⟩

end Client

/-- A request under construction. Each step checks it against the schema. -/
structure RequestDraft where
  client : Client
  set : EntitySet
  resource : ResourceParts
  interceptor : Option ResponseInterceptor := none

def Client.entitySet (client : Client) (set : EntitySet) : Except Error RequestDraft := do
  set.validate client.schema
  pure ⟨client, set, ← ResourceParts.empty.push (.entitySet set), none⟩

namespace RequestDraft

def target (draft : RequestDraft) : Logged Error Target :=
  draft.client.mapping.map draft.client.config.root draft.resource

/-- Adds a part if the whole can still be mapped. -/
def push (draft : RequestDraft) (part : ResourcePart) : Logged Error RequestDraft := do
  let resource ← .ofExcept (draft.resource.push part)
  let next := { draft with resource := resource }
  let _ ← next.target
  pure next

def withKeyStyle (draft : RequestDraft) (style : KeyStyle) (key : KeyValue) :
    Logged Error RequestDraft :=
  draft.push (.key (.styled style key))

def withKey (draft : RequestDraft) (key : KeyValue) : Logged Error RequestDraft :=
  draft.withKeyStyle draft.client.config.keyStyle key

def withRawKey (draft : RequestDraft) (text : String) : Logged Error RequestDraft :=
  draft.push (.key (.raw text))

def property (draft : RequestDraft) (name : String) : Logged Error RequestDraft :=
  draft.push (.property name)

def count (draft : RequestDraft) : Logged Error RequestDraft := draft.push .count

def value (draft : RequestDraft) : Logged Error RequestDraft := draft.push .value

def cast (draft : RequestDraft) (target : String) : Logged Error RequestDraft :=
  draft.push (.cast target)

def function (draft : RequestDraft) (name : String) (arguments : List (String × Value)) :
    Logged Error RequestDraft :=
  draft.push (.function name arguments)

def cursor (draft : RequestDraft) : Logged Error Cursor := do
  let target ← draft.target
  .ofExcept (Cursor.it draft.client.schema target.type.elementOrSelf)

def withQuery (draft : RequestDraft) (build : Cursor → Except Error (List Clause)) :
    Logged Error RequestDraft := do
  let cursor ← draft.cursor
  let clauses ← .ofExcept (build cursor)
  draft.push (.query clauses)

/-- Sets the interceptor that stands behind the one of the client. -/
def withInterceptor (draft : RequestDraft) (interceptor : ResponseInterceptor) : RequestDraft :=
  { draft with interceptor := some interceptor }

def addressText (draft : RequestDraft) (target : Target) : String :=
  draft.client.tools.addressText target.address draft.client.config.urlEncode

def address (draft : RequestDraft) : Logged Error String := do
  pure (draft.addressText (← draft.target))

def versionHeader : String := "OData-Version"

def request (draft : RequestDraft) : Logged ClientError (Request × Target) := do
  let target ← draft.target.mapError .query
  let text := draft.addressText target
  match RequestTarget.ofText? text with
  | none => .fail (.unsoundTarget text)
  | some line =>
    let request : Request :=
      ⟨line, .ofList [(versionHeader, "4"), ("Accept", target.accept.header)]⟩
    let adjusted := match draft.client.tools.adjustRequest with
      | some adjust => adjust request
      | none => request
    pure (adjusted, target)

def interceptors (draft : RequestDraft) : List ResponseInterceptor :=
  draft.client.tools.interceptResponse.toList ++ draft.interceptor.toList

def get (draft : RequestDraft) : Parsed := do
  let (request, target) ← draft.request
  match draft.client.tools.transport request with
  | .error reason => .fail (.transport reason)
  | .ok response =>
    runInterceptors draft.interceptors response ⟨target.accept, draft.client.ignoreWarnings⟩

def getJson (draft : RequestDraft) : Logged ClientError Json := do
  match (← draft.get).toJson? with
  | some json => pure json
  | none => .fail .unsoundJson

def getCount (draft : RequestDraft) : Logged ClientError Int := do
  match ← draft.get with
  | .text content => .fail (.notAnInteger content)
  | .integer i => pure i
  | .json document =>
    match document.int64? with
    | some i => pure i
    | none => .fail (.notAnInteger document.text)

end RequestDraft
end ODataRequest
