import ODataRequest.Clause.Call
import ODataRequest.Clause.Basic
import ODataRequest.Cursor
import ODataRequest.Text.Quoted
namespace ODataRequest

namespace Select

def properties (paths : List Expr) : Except Error Expr := callBuiltin .select "select" paths

def raw (text : String) : Except Error Expr := callBuiltin .select "selectRaw" [.raw text]

end Select

inductive ExpandOption
  | count
  | clauses (build : Cursor → Except Error (List Clause))

namespace ExpandOption

def isCount : ExpandOption → Bool
  | count => true
  | clauses _ => false

def directive : ExpandOption → Directive
  | count => .countOption
  | clauses build => .subQueries fun schema type => do
      pure ((← build (← Cursor.it schema type)).map Clause.expr)

end ExpandOption

namespace Expand

/-- An expansion with its options; the count comes first and at most once. -/
def expandWith (target : Expr) (options : List ExpandOption) : Except Error Expr :=
  let (counts, others) := options.partition ExpandOption.isCount
  let directives := (counts.take 1 ++ others).map fun option => Expr.directive option.directive
  callBuiltin .expand "expand" (target :: directives)

def expand (target : Expr) : Except Error Expr := expandWith target []

def reference (target : Expr) : Except Error Expr := callBuiltin .expand "expandRef" [target]

def all (referencesOnly : Bool) : Except Error Expr :=
  callBuiltin .expand "expandAll" (if referencesOnly then [.constant (.bool true)] else [])

def combine (expansions : List Expr) : Except Error Expr := callBuiltin .expand "combine" expansions

end Expand

namespace OrderBy

def ascending (e : Expr) : Except Error Expr := callBuiltin .orderBy "asc" [e]

def descending (e : Expr) : Except Error Expr := callBuiltin .orderBy "desc" [e]

def terms (terms : List Expr) : Except Error Expr := callBuiltin .orderBy "orderBy" terms

end OrderBy

namespace Search

def term (word : String) : Except Error Expr := callBuiltin .search "term" [.raw word]

def phrase (text : String) : Except Error Expr :=
  callBuiltin .search "phrase" [.raw (Text.phrase text)]

def all (terms : List Expr) : Except Error Expr := callBuiltin .search "and" terms

def some (terms : List Expr) : Except Error Expr := callBuiltin .search "or" terms

def not (term : Expr) : Except Error Expr := callBuiltin .search "not" [term]

end Search

namespace Paging

def top (n : Int) : Except Error Expr := callBuiltin .top "top" [.constant (.int n)]

def skip (n : Int) : Except Error Expr := callBuiltin .skip "skip" [.constant (.int n)]

/-- The clause renders empty; its value is filled in where the query string is put together. -/
def count : Except Error Expr := callBuiltin .count "count" []

end Paging

namespace Custom

def parameter (name : String) (e : Expr) : Except Error Expr :=
  callBuiltin .custom "custom" [.directive (.customName name), e]

def raw (name text : String) : Except Error Expr := parameter name (.raw text)

end Custom
end ODataRequest
