import ODataRequest.Clause.Filter
import ODataRequest.Clause.Options
namespace ODataRequest

inductive ClauseFunction
  | unary (build : Expr → Except Error Expr)
  | binary (build : Expr → Expr → Except Error Expr)
  | variadic (build : List Expr → Except Error Expr)

namespace ClauseFunction

/-- Further arguments are ignored; nothing is built if one is missing. -/
def call? : ClauseFunction → List Expr → Option (Except Error Expr)
  | unary build, e :: _ => some (build e)
  | binary build, left :: right :: _ => some (build left right)
  | variadic build, args => some (build args)
  | _, _ => none

def comparisons : List (String × ClauseFunction) :=
  ["eq", "ne", "gt", "ge", "lt", "le"].map fun name =>
    ("filter." ++ name, binary fun left right => Filter.compare name left right none)

def arithmetic : List (String × ClauseFunction) :=
  [("add", "add"), ("sub", "sub"), ("mul", "mul"), ("div", "div"), ("divby", "divby"),
    ("modulo", "mod")].map fun (name, operator) =>
      ("filter." ++ name, binary fun left right => Filter.arithmetic operator left right none)

def roundings : List (String × ClauseFunction) :=
  ["negate", "ceiling", "floor", "round"].map fun name =>
    ("filter." ++ name, unary fun e => Filter.numeric name [e] none)

def unaryCalls : List (String × ClauseFunction) :=
  ["length", "tolower", "toupper", "trim", "year", "month", "day", "hour", "minute",
    "second"].map fun name => ("filter." ++ name, unary fun e => Filter.call name [e])

def binaryCalls : List (String × ClauseFunction) :=
  ["contains", "startswith", "endswith", "indexof", "concat"].map fun name =>
    ("filter." ++ name, binary fun left right => Filter.call name [left, right])

def others : List (String × ClauseFunction) :=
  [("filter.has", binary Filter.has), ("filter.not", unary Filter.not),
    ("filter.and", variadic Filter.all), ("filter.or", variadic Filter.some),
    ("filter.now", variadic fun _ => Filter.now), ("select.select", variadic Select.properties),
    ("expand.expand", unary Expand.expand), ("expand.ref", unary Expand.reference),
    ("expand.combine", variadic Expand.combine), ("orderby.asc", unary OrderBy.ascending),
    ("orderby.desc", unary OrderBy.descending), ("orderby.order_by", variadic OrderBy.terms),
    ("search.and", variadic Search.all), ("search.or", variadic Search.some),
    ("search.not", unary Search.not), ("paging.count", variadic fun _ => Paging.count)]

def catalog : List (String × ClauseFunction) :=
  comparisons ++ arithmetic ++ roundings ++ unaryCalls ++ binaryCalls ++ others

def ofName? (name : String) : Option ClauseFunction := lookupNamed name catalog

end ClauseFunction
end ODataRequest
