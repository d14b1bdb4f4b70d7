import ODataRequest.Signature.Builtin
import ODataRequest.Expr.Application
namespace ODataRequest

def callBuiltin (option : QueryOption) (name : String) (args : List Expr) : Except Error Expr := do
  (← Builtin.signature option name).apply none args

end ODataRequest
