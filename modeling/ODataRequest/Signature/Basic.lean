import ODataRequest.TypeRef
import ODataRequest.Text.Numeral
import ODataRequest.Text.Replace
namespace ODataRequest

inductive Nullability
  | inherited
  | nullable
  | nonNull
  deriving DecidableEq

/-- The type of an operand. A generic type is bound by the first typed argument of its name. -/
inductive OperandType
  | concrete (type : TypeRef)
  | generic (name : String)
  | genericCollection (name : String)
  | any
  deriving DecidableEq

def OperandType.text : OperandType → String
  | concrete type => type.text
  | generic name => name
  | genericCollection name => "Collection(" ++ name ++ ")"
  | any => "any"

inductive DirectiveKind
  | customName
  | subQueries
  | countOption
  | format
  | rawPaths
  | rawText
  | result
  deriving DecidableEq

def DirectiveKind.text : DirectiveKind → String
  | customName => "CustomQueryArg"
  | subQueries => "ExpandAnd"
  | countOption => "ExpandCount"
  | format => "Mapper"
  | rawPaths => "FilterRawProps"
  | rawText => "FilterRawExecutor"
  | result => "OutputType"

inductive ParameterKind
  | operand (type : OperandType) (nullability : Nullability)
  | directive (kind : DirectiveKind) (description : String)
  deriving DecidableEq

structure Parameter where
  name : String
  kind : ParameterKind
  optional : Bool := false
  repeated : Bool := false
  deriving DecidableEq

namespace Parameter

def operand (name : String) (type : OperandType) : Parameter :=
  ⟨name, .operand type .inherited, false, false⟩

def directive (name : String) (kind : DirectiveKind) (description : String) : Parameter :=
  ⟨name, .directive kind description, false, false⟩

def asOptional (p : Parameter) : Parameter := { p with optional := true }

def asRepeated (p : Parameter) : Parameter := { p with repeated := true }

/-- Declares whether null is allowed; a directive has no such declaration. -/
def withNullability (p : Parameter) (nullability : Nullability) : Parameter :=
  match p.kind with
  | .operand type _ => { p with kind := .operand type nullability }
  | .directive _ _ => p

def directiveKind? (p : Parameter) : Option DirectiveKind :=
  match p.kind with
  | .directive kind _ => some kind
  | .operand _ _ => none

def declaresList (p : Parameter) : Bool :=
  match p.kind with
  | .operand (.genericCollection _) _ => true
  | .operand (.concrete type) _ => type.isCollection
  | _ => false

def text (p : Parameter) : String :=
  let dots := if p.repeated then "..." else ""
  let mark := if p.optional then "?" else ""
  let kind := match p.kind with
    | .operand type .nullable => type.text ++ " | null"
    | .operand type _ => type.text
    | .directive kind description => "<" ++ kind.text ++ ": " ++ description ++ ">"
  dots ++ p.name ++ mark ++ ": " ++ kind

end Parameter

inductive Layout
  | between (operator : String)
  | function (name : String)
  | before (operator : String)
  | after (operator : String)
  | joined (separator : String)
  | plain
  deriving DecidableEq

inductive QueryOption
  | filter
  | select
  | expand
  | orderBy
  | search
  | top
  | skip
  | count
  | custom
  deriving DecidableEq

namespace QueryOption

/-- The key of a system query option; a custom one brings its own. -/
def key? : QueryOption → Option String
  | filter => some "$filter"
  | select => some "$select"
  | expand => some "$expand"
  | orderBy => some "$orderby"
  | search => some "$search"
  | top => some "$top"
  | skip => some "$skip"
  | count => some "$count"
  | custom => none

def ofKey : String → QueryOption
  | "$filter" => filter
  | "$select" => select
  | "$expand" => expand
  | "$orderby" => orderBy
  | "$search" => search
  | "$top" => top
  | "$skip" => skip
  | "$count" => count
  | _ => custom

def hint : QueryOption → String
  | filter => "Use the and/or functions to combine filters."
  | select => "Pass every property to a single select call."
  | expand => "Use the combine function to expand several properties."
  | orderBy => "Pass every ordering to a single orderBy call."
  | search => "Use the and/or functions to combine search terms."
  | top | skip | count | custom => "Only one value is allowed."

end QueryOption

structure OverloadsOf (σ : Type) where
  name : String
  members : List σ

/-- The type of a call, or the overloads among which it is not decided yet. -/
inductive ResultOf (σ : Type)
  | type (type : TypeRef)
  | undecided (overloads : OverloadsOf σ)

structure Signature where
  name : String
  parameters : List Parameter
  result : ResultOf Signature
  layout : Layout
  option : QueryOption
  constructedFrom : Option Signature

abbrev Overloads := OverloadsOf Signature

abbrev Result := ResultOf Signature

namespace ResultOf

variable {σ : Type}

def concrete? : ResultOf σ → Option TypeRef
  | type t => some t
  | undecided _ => none

def text : ResultOf σ → String
  | type t => t.text
  | undecided overloads => "<overloads of " ++ overloads.name ++ ">"

end ResultOf

def firstRepeated? (seen : List String) : List String → Option String
  | [] => none
  | text :: rest => if seen.contains text then some text else firstRepeated? (text :: seen) rest

namespace Signature

def declared (name : String) (option : QueryOption) (parameters : List Parameter)
    (result : Result) (layout : Layout) : Signature :=
  ⟨name, parameters, result, layout, option, none⟩

def narrowed (s : Signature) (type : TypeRef) : Signature :=
  { s with result := .type type, constructedFrom := some s }

def withoutParameter (s : Signature) (index : Nat) : Signature :=
  { s with parameters := s.parameters.eraseIdx index, constructedFrom := some s }

def reshaped (s : Signature) (parameters : List Parameter) (layout : Layout) : Signature :=
  { s with parameters := parameters, layout := layout, constructedFrom := some s }

def origin : Signature → Signature
  | ⟨_, _, _, _, _, some earlier⟩ => earlier.origin
  | ⟨name, parameters, result, layout, option, none⟩ =>
    ⟨name, parameters, result, layout, option, none⟩

def text (s : Signature) : String :=
  s.name ++ "(" ++ Text.joined ", " (s.parameters.map Parameter.text) ++ "): " ++ s.result.text

def validate (s : Signature) : Except Error Unit :=
  match firstRepeated? [] (s.parameters.map Parameter.name) with
  | some name => .error (.duplicateParameter name s.text)
  | none => .ok ()

def arityText (s : Signature) : String :=
  let required := (s.parameters.filter fun p => !p.optional && !p.repeated).length
  if s.parameters.any Parameter.repeated then "at least " ++ numeral required
  else if s.parameters.length = required then numeral required
  else numeral required ++ " to " ++ numeral s.parameters.length

end Signature

namespace OverloadsOf

def ofSignatures (name : String) (members : List Signature) : Except Error Overloads :=
  match members.find? fun s => s.name != name with
  | some other => .error (.overloadNameMismatch name other.name)
  | none => .ok ⟨name, members⟩

def byResult? (overloads : Overloads) (type : TypeRef) : Option Signature :=
  overloads.members.find? fun s => s.result.concrete? == some type

def primary? (overloads : Overloads) : Option Signature := overloads.members.head?

end OverloadsOf
end ODataRequest
