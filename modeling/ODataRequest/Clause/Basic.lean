import ODataRequest.Expr.Basic
namespace ODataRequest

/-!
Clauses of a query string. The key of a clause follows from the outermost call of its
expression: the name of a custom parameter if there is one, else the key of the query option.
-/

/-- An expression that is meant to become one option of the query string. -/
structure Clause where
  expr : Expr

namespace Clause

def call (clause : Clause) : Except Error Call :=
  match clause.expr.topCall? with
  | some c => .ok c
  | none => .error (.invalidQuery "a query must be built with a query DSL function")

def option (clause : Clause) : Except Error QueryOption :=
  clause.call.map fun c => c.signature.option

def customReceiver? (c : Call) : Option String :=
  match c.receiver with
  | some (.root symbol) => if symbol.custom then symbol.context else none
  | _ => none

def customName? (c : Call) : Option String :=
  c.args.findSome? fun
    | (.directive (.customName name), _) => some name
    | _ => none

def key (clause : Clause) : Except Error String := do
  let c ← clause.call
  match (customReceiver? c).or ((customName? c).or c.signature.option.key?) with
  | some name => pure name
  | none => .error (.invalidQuery s!"custom query '{c.signature.name}' has no parameter name")

def repeated (key : String) : Error :=
  .repeatedClause (Text.dropLeading '$' key) (QueryOption.ofKey key).hint

end Clause
end ODataRequest
