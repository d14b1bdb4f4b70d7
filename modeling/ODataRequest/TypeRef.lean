import ODataRequest.Error
namespace ODataRequest

inductive TypeRef
  | named (scope name : String)
  | collection (element : TypeRef)
  deriving DecidableEq, Repr, Inhabited

def edmScope : String := "Edm"

/-- The scope of text that is a literal already. -/
def rawScope : String := "$raw"

def customScope : String := "$custom"

namespace TypeRef

def edm (name : String) : TypeRef := named edmScope name

def raw : TypeRef := named rawScope "Literal"

def boolean : TypeRef := edm "Boolean"

def string : TypeRef := edm "String"

def int32 : TypeRef := edm "Int32"

def int64 : TypeRef := edm "Int64"

def text : TypeRef → String
  | named scope name => scope ++ "." ++ name
  | collection element => "Collection(" ++ element.text ++ ")"

def isCollection : TypeRef → Bool
  | named _ _ => false
  | collection _ => true

def isEdm : TypeRef → Bool
  | named scope _ => scope == edmScope
  | collection _ => false

def isRaw : TypeRef → Bool
  | named scope _ => scope == rawScope
  | collection _ => false

def integerNames : List String := ["Byte", "SByte", "Int16", "Int32", "Int64"]

def isInteger : TypeRef → Bool
  | named scope name => scope == edmScope && integerNames.contains name
  | collection _ => false

def isNumeric : TypeRef → Bool
  | named scope name =>
    scope == edmScope && (integerNames ++ ["Double", "Single", "Decimal"]).contains name
  | collection _ => false

def depth : TypeRef → Nat
  | named _ _ => 0
  | collection element => element.depth + 1

def innermost : TypeRef → TypeRef
  | named scope name => named scope name
  | collection element => element.innermost

def wrap (type : TypeRef) : Nat → TypeRef
  | 0 => type
  | layers + 1 => collection (type.wrap layers)

/-- The element type of a collection that is not nested. -/
def element : TypeRef → Except Error TypeRef
  | collection (collection inner) =>
    .error (.nestedCollection (collection (collection inner)).text)
  | collection (named scope name) => .ok (named scope name)
  | named scope name => .error (.cannotTraverse (named scope name).text "not a collection")

def elementOrSelf : TypeRef → TypeRef
  | collection element => element
  | named scope name => named scope name

/-- Named types before collections, then by scope and name. -/
def order : TypeRef → TypeRef → Ordering
  | named scope name, named scope' name' => (compare scope scope').then (compare name name')
  | named _ _, collection _ => .lt
  | collection _, named _ _ => .gt
  | collection element, collection element' => element.order element'

end TypeRef

/-- The primitive types that an operator can be asked to return. -/
inductive PrimitiveType
  | byte
  | sbyte
  | int16
  | int32
  | int64
  | single
  | double
  | decimal
  | string
  | boolean
  deriving DecidableEq, Repr

namespace PrimitiveType

def all : List PrimitiveType :=
  [byte, sbyte, int16, int32, int64, single, double, decimal, string, boolean]

def name : PrimitiveType → String
  | byte => "Byte"
  | sbyte => "SByte"
  | int16 => "Int16"
  | int32 => "Int32"
  | int64 => "Int64"
  | single => "Single"
  | double => "Double"
  | decimal => "Decimal"
  | string => "String"
  | boolean => "Boolean"

def type (primitive : PrimitiveType) : TypeRef := TypeRef.edm primitive.name

end PrimitiveType
end ODataRequest
