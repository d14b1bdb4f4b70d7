import ODataRequest.Signature.Basic
namespace ODataRequest.Builtin

def generic (name : String) : Parameter := .operand name (.generic "T")

def typed (name : String) (type : TypeRef) : Parameter := .operand name (.concrete type)

def string (name : String) : Parameter := typed name .string

def rawText (name : String) : Parameter := typed name .raw

def untyped (name : String) : Parameter := .operand name .any

def format : Parameter := (Parameter.directive "mapper" .format "maps T to a literal").asOptional

def single (option : QueryOption) (name : String) (parameters : List Parameter) (result : TypeRef)
    (layout : Layout) : QueryOption × String × Overloads :=
  (option, name, ⟨name, [.declared name option parameters (.type result) layout]⟩)

def comparison (name : String) : QueryOption × String × Overloads :=
  single .filter name
    [generic "lhs", (generic "rhs").withNullability .nullable, format] .boolean (.between name)

def condition (name : String) : QueryOption × String × Overloads :=
  single .filter name [(typed "conditions" .boolean).asRepeated] .boolean (.between name)

def textTest (name : String) : QueryOption × String × Overloads :=
  single .filter name [string "value", string "search"] .boolean (.function name)

def textFunction (name : String) : QueryOption × String × Overloads :=
  single .filter name [string "value"] .string (.function name)

def dateFunction (name : String) : QueryOption × String × Overloads :=
  single .filter name [untyped "value"] .int32 (.function name)

def quantifier (name : String) : QueryOption × String × Overloads :=
  single .filter name [(untyped "predicate").asOptional] .boolean (.function name)

def typeFunction (name : String) (result : TypeRef) : QueryOption × String × Overloads :=
  single .filter name [untyped "value", rawText "type"] result (.function name)

/-- The numeric types in the order in which overloads are declared. -/
def numericTypes : List PrimitiveType :=
  [.int64, .double, .decimal, .single, .int32, .int16, .byte, .sbyte]

/-- An arithmetic operator has an overload for each numeric type, and a second entry whose
type is decided by a directive. -/
def numeric (name deciding : String) (operands : List String) (layout : Layout) :
    List (QueryOption × String × Overloads) :=
  let parameters := operands.map untyped
  let overloads : Overloads := ⟨name, numericTypes.map fun type =>
    .declared name .filter parameters (.type type.type) layout⟩
  let undecided := Signature.declared name .filter
    (parameters ++ [.directive "output" .result "EDM output type"]) (.undecided overloads) layout
  [(.filter, name, overloads), (.filter, deciding, ⟨name, [undecided]⟩)]

def arithmetic (name : String) : List (QueryOption × String × Overloads) :=
  numeric name (name ++ "_as") ["lhs", "rhs"] (.between name)

def rounding (name : String) : List (QueryOption × String × Overloads) :=
  numeric name (name ++ "_as") ["lhs"] (.function name)

def filters : List (QueryOption × String × Overloads) :=
  ["eq", "ne", "gt", "ge", "lt", "le"].map comparison ++
  [single .filter "in"
      [generic "lhs", .operand "rhs" (.genericCollection "T"), format] .boolean (.between "in"),
    single .filter "has" [generic "lhs", generic "flag"] .boolean (.between "has"),
    condition "and", condition "or",
    single .filter "not" [typed "condition" .boolean] .boolean (.before "not ")] ++
  ["add", "sub", "mul", "div", "divby", "mod"].flatMap arithmetic ++
  numeric "negate" "negate_as" ["lhs"] (.before "-") ++
  ["ceiling", "floor", "round"].flatMap rounding ++
  ["contains", "startswith", "endswith"].map textTest ++
  [single .filter "indexof" [string "value", string "search"] .int32 (.function "indexof"),
    single .filter "length" [string "value"] .int32 (.function "length")] ++
  ["tolower", "toupper", "trim"].map textFunction ++
  [single .filter "concat" [string "left", string "right"] .string (.function "concat"),
    single .filter "substring"
      [string "value", typed "start" .int32, (typed "length" .int32).asOptional] .string
      (.function "substring")] ++
  ["year", "month", "day", "hour", "minute", "second"].map dateFunction ++
  [single .filter "now" [] (.edm "DateTimeOffset") (.function "now"),
    typeFunction "isof" .boolean, typeFunction "cast" .raw,
    quantifier "any", quantifier "all",
    single .filter "filterRaw"
      [.directive "props" .rawPaths "name to expression map",
        .directive "executor" .rawText "builds the filter from the rendered paths"]
      .boolean .plain]

def expansions : List (QueryOption × String × Overloads) :=
  [single .expand "expand"
      [untyped "target",
        (Parameter.directive "count" .countOption "expand with $count").asOptional,
        (Parameter.directive "and" .subQueries "sub-query builder").asRepeated]
      .raw .plain,
    single .expand "expandRef" [untyped "target"] .raw (.after "/$ref"),
    single .expand "expandAll" [(typed "ref" .boolean).asOptional] .raw (.function "expandAll"),
    single .expand "combine" [(untyped "expands").asRepeated] .raw (.joined ",")]

def selections : List (QueryOption × String × Overloads) :=
  [single .select "select" [(untyped "props").asRepeated] .raw (.joined ","),
    single .select "selectRaw" [rawText "value"] .raw .plain]

def orderings : List (QueryOption × String × Overloads) :=
  [single .orderBy "asc" [untyped "value"] .raw (.after " asc"),
    single .orderBy "desc" [untyped "value"] .raw (.after " desc"),
    single .orderBy "orderBy" [(untyped "terms").asRepeated] .raw (.joined ",")]

def searches : List (QueryOption × String × Overloads) :=
  [single .search "term" [rawText "value"] .raw .plain,
    single .search "phrase" [rawText "value"] .raw .plain,
    single .search "and" [(untyped "terms").asRepeated] .raw (.between "AND"),
    single .search "or" [(untyped "terms").asRepeated] .raw (.between "OR"),
    single .search "not" [untyped "term"] .raw (.before "NOT ")]

def others : List (QueryOption × String × Overloads) :=
  [single .top "top" [typed "count" .int64] .int64 .plain,
    single .skip "skip" [typed "count" .int64] .int64 .plain,
    single .count "count" [] .boolean (.joined ","),
    single .custom "custom"
      [.directive "name" .customName "query parameter name", untyped "value"] .raw .plain]

def table : List (QueryOption × String × Overloads) :=
  filters ++ selections ++ expansions ++ orderings ++ searches ++ others

def overloads (option : QueryOption) (name : String) : Except Error Overloads :=
  match table.find? fun entry => entry.1 == option && entry.2.1 == name with
  | some entry => .ok entry.2.2
  | none => .error (.invalidQuery s!"no built-in function '{name}'")

def signature (option : QueryOption) (name : String) : Except Error Signature := do
  match (← overloads option name).primary? with
  | some s => pure s
  | none => .error (.invalidQuery s!"built-in '{name}' has no overloads")

def overload (option : QueryOption) (name : String) (type : PrimitiveType) :
    Except Error Signature := do
  match (← overloads option name).byResult? type.type with
  | some s => pure s
  | none => .error (.invalidQuery s!"'{name}' has no overload returning {type.name}")

end ODataRequest.Builtin
