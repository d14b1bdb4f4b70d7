import ODataRequest.Clause.Call
import ODataRequest.Cursor
namespace ODataRequest.Filter

def call (name : String) (args : List Expr) : Except Error Expr := callBuiltin .filter name args

def formatArgs : Option Format → List Expr
  | some format => [.directive (.format format)]
  | none => []

def compare (operator : String) (left right : Expr) (format : Option Format) : Except Error Expr :=
  call operator ([left, right] ++ formatArgs format)

def isIn (left : Expr) (values : List Value) (format : Option Format) : Except Error Expr :=
  call "in" ([left, .constant (.list values)] ++ formatArgs format)

def has (left flag : Expr) : Except Error Expr := call "has" [left, flag]

def all (conditions : List Expr) : Except Error Expr := call "and" conditions

def some (conditions : List Expr) : Except Error Expr := call "or" conditions

def not (condition : Expr) : Except Error Expr := call "not" [condition]

/-- The result type of an operator. A given type wins; a quotient is floating point;
anything else stays an integer if every operand is known to be one. -/
def inferResult (operator : String) (operands : List Expr) (given : Option PrimitiveType) :
    PrimitiveType :=
  match given with
  | .some type => type
  | none =>
    if operator = "div" ∨ operator = "divby" then .double
    else if operands ≠ [] ∧ operands.all Expr.isInteger then .int64
    else .double

def numeric (operator : String) (operands : List Expr) (result : Option PrimitiveType) :
    Except Error Expr :=
  match result with
  | .some type => call (operator ++ "_as") (operands ++ [.directive (.result type)])
  | none => do
    let s ← Builtin.overload .filter operator (inferResult operator operands none)
    s.apply none operands

def arithmetic (operator : String) (left right : Expr) (result : Option PrimitiveType) :
    Except Error Expr :=
  numeric operator [left, right] result

def substring (text : Expr) (start : Int) (length : Option Int) : Except Error Expr :=
  call "substring" ([text, .constant (.int start)] ++
    (length.map fun n => Expr.constant (.int n)).toList)

def now : Except Error Expr := call "now" []

def isOf (e : Expr) (type : TypeRef) : Except Error Expr := call "isof" [e, .raw type.text]

def cast (e : Expr) (type : TypeRef) : Except Error Expr := do
  let s ← Builtin.signature .filter "cast"
  (s.narrowed type).apply none [e, .raw type.text]

/-- `any` or `all` over a collection; the predicate is built for the element. -/
def quantify (quantifier : String) (collection : Cursor) (variableName : String)
    (predicate : Cursor → Except Error Expr) : Except Error Expr := do
  let element ← collection.element variableName
  let body ← predicate element
  let arg := Expr.assembled [.text (variableName ++ ":"), .expr body] (.type .boolean)
  (← Builtin.signature .filter quantifier).apply collection.toExpr [arg]

def notEmpty (collection : Cursor) : Except Error Expr := do
  (← Builtin.signature .filter "any").apply collection.toExpr []

/-- A hand-written filter over rendered paths; of two paths with one name the later is kept. -/
def handWritten (paths : List (String × Expr)) (write : List (String × String) → String) :
    Except Error Expr :=
  call "filterRaw"
    [.directive (.rawPaths (Table.ofList paths).entries), .directive (.rawText write)]

end ODataRequest.Filter
