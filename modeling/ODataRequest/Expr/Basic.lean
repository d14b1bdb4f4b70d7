import ODataRequest.Value
import ODataRequest.Schema.Basic
import ODataRequest.Signature.Basic
namespace ODataRequest

/-!
Expressions. The types of calls, aliases and directives are declared over any type of
expressions, so that expressions can hold them.
-/

/-- The anchor of a path: a named context. `level` counts the element steps that led to it,
so the anchor of an element differs from that of its collection. -/
structure RootSymbol where
  context : Option String
  result : Result
  custom : Bool := false
  level : Nat := 0

def itContext : String := "$it"

namespace RootSymbol

def ofType (context : String) (type : TypeRef) : RootSymbol := ⟨some context, .type type, false, 0⟩

def atLevel (symbol : RootSymbol) (level : Nat) : RootSymbol := { symbol with level := level }

def ofCustom (name : String) : RootSymbol :=
  ⟨some name, .type (.named customScope name), true, 0⟩

def withContext (symbol : RootSymbol) (context : String) : RootSymbol :=
  { symbol with context := some context }

def same (symbol other : RootSymbol) : Bool :=
  symbol.level == other.level && symbol.context == other.context

end RootSymbol

inductive Formatter
  | item (write : Value → String)
  | list (write : List Value → String)

structure Format where
  elementType : TypeRef
  formatter : Formatter

inductive AliasPayloadOf (ε : Type)
  | reference (e : ε)
  | constant (value : Value) (type : TypeRef)
  | text (text : String)

/-- What tells aliases apart: the number an author gave, or the place of a function argument
among the aliases of a path. -/
inductive AliasId
  | given (number : Nat)
  | argument (place : Nat)
  deriving DecidableEq

/-- A parameter alias. Aliases of one identity are one and the same, whatever their names. -/
structure AliasOf (ε : Type) where
  id : AliasId
  name : String
  payload : AliasPayloadOf ε

inductive PartOf (ε : Type)
  | text (text : String)
  | expr (e : ε)

structure CallOf (ε : Type) where
  receiver : Option ε
  args : List (ε × Parameter)
  signature : Signature
  bindings : Table TypeRef

/-- What an author attached to a call. It is worked in before the call is rendered. -/
inductive DirectiveOf (ε : Type)
  | customName (name : String)
  | subQueries (build : Schema → TypeRef → Except Error (List ε))
  | countOption
  | format (format : Format)
  | rawPaths (paths : List (String × ε))
  | rawText (write : List (String × String) → String)
  | result (type : PrimitiveType)

def DirectiveOf.kind {ε : Type} : DirectiveOf ε → DirectiveKind
  | customName _ => .customName
  | subQueries _ => .subQueries
  | countOption => .countOption
  | format _ => .format
  | rawPaths _ => .rawPaths
  | rawText _ => .rawText
  | result _ => .result

inductive Expr
  | root (symbol : RootSymbol)
  | property (parent : Option Expr) (name : String) (result : Result)
  | call (call : CallOf Expr)
  | value (value : Value) (type : Option TypeRef)
  | aliased (param : AliasOf Expr) (type : Option TypeRef)
  | directive (directive : DirectiveOf Expr)
  | inContext (inner : Expr) (context : String)
  | named (inner : Expr) (symbol : RootSymbol)
  | assembled (parts : List (PartOf Expr)) (result : Result)

abbrev Call := CallOf Expr

abbrev Directive := DirectiveOf Expr

abbrev Part := PartOf Expr

abbrev Alias := AliasOf Expr

abbrev AliasPayload := AliasPayloadOf Expr

namespace Expr

def constant (v : Value) : Expr := value v none

def typedConstant (v : Value) (type : TypeRef) : Expr := value v (some type)

def raw (text : String) : Expr := typedConstant (.raw text) .raw

def member (parent : Option Expr) (name : String) (type : TypeRef) : Expr :=
  property parent name (.type type)

def result? : Expr → Option Result
  | root symbol => some symbol.result
  | property _ _ result | assembled _ result => some result
  | call c => some c.signature.result
  | value _ type | aliased _ type => type.map .type
  | directive _ => none
  | inContext inner _ | named inner _ => inner.result?

def concreteType? (e : Expr) : Option TypeRef := e.result?.bind ResultOf.concrete?

/-- Whether the expression is known to be an integer. An untyped constant shows it by its value. -/
def isInteger : Expr → Bool
  | value v none => v.isInteger
  | e => (e.concreteType?.map TypeRef.isInteger).getD false

def anchor? : Expr → Option RootSymbol
  | root symbol => some symbol
  | property (some parent) _ _ => parent.anchor?
  | call ⟨some receiver, _, _, _⟩ => receiver.anchor?
  | inContext inner _ | named inner _ => inner.anchor?
  | _ => none

/-- The outermost call, looked for under contexts and names. -/
def topCall? : Expr → Option Call
  | call c => some c
  | inContext inner _ | named inner _ => inner.topCall?
  | _ => none

def ofAlias (param : Alias) : Expr :=
  aliased param (match param.payload with
    | .constant _ type => some type
    | .reference e => e.concreteType?
    | .text _ => none)

end Expr

namespace AliasOf

def create (id : AliasId) (name : String) (payload : AliasPayload) : Alias :=
  ⟨id, if name.toList.head? = some '@' then name else "@" ++ name, payload⟩

end AliasOf
end ODataRequest
