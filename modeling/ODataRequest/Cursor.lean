import ODataRequest.Expr.Basic
import ODataRequest.Schema.Cast
namespace ODataRequest

/-!
Positions in the data of a service. A position knows the path that led to it, so it serves both
as an expression and as the parts of a request; only steps that the schema allows are taken.
-/

inductive StepKind
  | property
  | navigation
  | cast
  | count
  | value
  deriving DecidableEq

structure PathStep where
  name : String
  kind : StepKind
  type : TypeRef
  deriving DecidableEq

inductive CursorKind
  | primitive
  | enum
  | complex
  | collection
  | count
  | value
  deriving DecidableEq

structure Cursor where
  schema : Schema
  type : TypeRef
  path : List PathStep
  root : RootSymbol
  aliases : Table Alias
  kind : CursorKind

namespace Cursor

def classifySingle (schema : Schema) (type : TypeRef) : Except Error CursorKind := do
  match ← schema.kind type with
  | .primitive | .raw => pure .primitive
  | .enum _ => pure .enum
  | .complex c =>
    (← schema.properties c).forM fun (_, property) =>
      (schema.kind property.type.innermost).map fun _ => ()
    pure .complex

def classify (schema : Schema) (type : TypeRef) : Except Error CursorKind :=
  if 1 < type.depth then .error (.nestedCollection type.text)
  else match type with
    | .collection element => (classifySingle schema element).map fun _ => .collection
    | single => classifySingle schema single

def start (schema : Schema) (type : TypeRef) (root : RootSymbol) : Except Error Cursor := do
  let kind ← classify schema type
  pure ⟨schema, type, [], root, .empty, kind⟩

def it (schema : Schema) (type : TypeRef) : Except Error Cursor :=
  start schema type (.ofType itContext type)

def step (cursor : Cursor) (taken : PathStep) (kind : CursorKind) : Cursor :=
  { cursor with type := taken.type, path := cursor.path ++ [taken], kind := kind }

def cannotTraverse (cursor : Cursor) (what : String) : Error :=
  let reason := match cursor.kind with
    | .primitive | .enum => "cannot traverse a primitive type"
    | .count => "cannot traverse a $count"
    | .value => "cannot traverse a $value"
    | .complex | .collection => "operation not available"
  .cannotTraverse cursor.type.text (reason ++ " (" ++ what ++ ")")

def propertyNames (cursor : Cursor) : Except Error (List String) := do
  if cursor.kind = .complex then
    let c ← cursor.schema.complex cursor.type
    pure ((← cursor.schema.properties c).map Prod.fst)
  else .error (cursor.cannotTraverse "properties")

def property (cursor : Cursor) (name : String) : Except Error Cursor :=
  match cursor.kind with
  | .complex => do
    let c ← cursor.schema.complex cursor.type
    let property ← cursor.schema.property c name
    let kind ← classify cursor.schema property.type
    let stepKind := if property.navigation then StepKind.navigation else .property
    pure (cursor.step ⟨name, stepKind, property.type⟩ kind)
  | .collection =>
    .error (.propertyNotAllowed cursor.type.text name
      "collections only expose their element and $count")
  | _ => .error (cursor.cannotTraverse name)

/-- The element of a collection, with an anchor of its own. -/
def element (cursor : Cursor) (variableName : String) : Except Error Cursor :=
  if cursor.kind = .collection then do
    let type ← cursor.type.element
    let anchor := (RootSymbol.ofType variableName type).atLevel (cursor.root.level + 1)
    let element ← start cursor.schema type anchor
    pure { element with aliases := cursor.aliases }
  else .error (cursor.cannotTraverse "element")

def count (cursor : Cursor) : Except Error Cursor :=
  if cursor.kind = .collection then
    .ok (cursor.step ⟨"$count", .count, .int64⟩ .count)
  else .error (cursor.cannotTraverse "$count")

def value (cursor : Cursor) : Except Error Cursor :=
  if cursor.kind = .primitive ∨ cursor.kind = .enum then
    .ok (cursor.step ⟨"$value", .value, .string⟩ .value)
  else .error (cursor.cannotTraverse "$value")

def castBase (cursor : Cursor) : Except Error ComplexType :=
  if 1 < cursor.type.depth then .error (.nestedCollection cursor.type.text)
  else match cursor.kind with
    | .complex | .collection => cursor.schema.complex cursor.type.innermost
    | _ => .error (cursor.cannotTraverse "cast")

def casters (cursor : Cursor) : Except Error (Table TypeRef) :=
  cursor.castBase.map cursor.schema.casters

/-- A cast to a derived type; a collection stays a collection. -/
def cast (cursor : Cursor) (target : String) : Except Error Cursor := do
  let base ← cursor.castBase
  let derived ← cursor.schema.resolveCast base target
  let type := derived.wrap cursor.type.depth
  let kind ← classify cursor.schema type
  pure (cursor.step ⟨derived.text, .cast, type⟩ kind)

def inContext (cursor : Cursor) (context : String) : Cursor :=
  { cursor with root := cursor.root.withContext context }

def withAlias (cursor : Cursor) (param : Alias) : Cursor :=
  { cursor with aliases := cursor.aliases.insert (Text.dropLeading '@' param.name) param }

def aliased (cursor : Cursor) (name : String) : Except Error Expr :=
  match cursor.aliases.get? (Text.dropLeading '@' name) with
  | some param => .ok (.ofAlias param)
  | none => .error (.invalidQuery s!"no @param alias named '{name}'")

def toExpr (cursor : Cursor) : Expr :=
  cursor.path.foldl (fun parent step => .member (some parent) step.name step.type)
    (.root cursor.root)

end Cursor
end ODataRequest
