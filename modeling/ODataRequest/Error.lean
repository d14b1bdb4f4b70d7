namespace ODataRequest

inductive Error
  | unknownType (type : String)
  | unknownProperty (type property : String)
  | unresolvedBase (type base : String)
  | duplicateProperty (type base property : String)
  | noKey (type : String)
  | missingKeyProperty (type property : String)
  | unexpectedKeyProperty (type property : String)
  | unknownCast (type target : String)
  | missingEntitySet (part : String)
  | unknownFunction (type function : String)
  | repeatedClause (clause hint : String)
  | partAfterQuery (part : String)
  | keyNotAllowed (type reason : String)
  | propertyNotAllowed (type property reason : String)
  | missingRoot (found : String)
  | argumentCount (function expected : String) (actual : Nat)
  | directiveMismatch (parameter signature : String)
  | unresolvedDirective (parameter signature : String)
  | duplicateParameter (parameter signature : String)
  | overloadNameMismatch (expected actual : String)
  | ambiguousResult (name : String)
  | invalidQuery (reason : String)
  | nestedCollection (type : String)
  | cannotTraverse (type reason : String)
  | unsupportedFormat (type parameter reason : String)
  | notSerializable (value type : String)
  deriving DecidableEq, Repr

/-- The name of a cause for programs that have to tell causes apart. -/
def Error.code : Error → String
  | unknownType .. => "UnknownType"
  | unknownProperty .. => "UnknownProperty"
  | unresolvedBase .. => "UnknownBaseType"
  | duplicateProperty .. => "DuplicateProperty"
  | noKey .. => "NoKey"
  | missingKeyProperty .. => "MissingKeyProperty"
  | unexpectedKeyProperty .. => "UnexpectedKeyProperty"
  | unknownCast .. => "UnknownCast"
  | missingEntitySet .. => "MissingEntitySet"
  | unknownFunction .. => "UnknownFunction"
  | repeatedClause .. => "MultipleClauses"
  | partAfterQuery .. => "PartAfterQuery"
  | keyNotAllowed .. => "KeyNotAllowed"
  | propertyNotAllowed .. => "PropertyNotAllowed"
  | missingRoot .. => "MissingUriRoot"
  | argumentCount .. => "ArgumentCount"
  | directiveMismatch .. => "RewriteArgMismatch"
  | unresolvedDirective .. => "UnresolvedRewrite"
  | duplicateParameter .. => "DuplicateArgument"
  | overloadNameMismatch .. => "SignatureNameMismatch"
  | ambiguousResult .. => "PolymorphicReturnType"
  | invalidQuery .. => "InvalidQuery"
  | nestedCollection .. => "NestedCollection"
  | cannotTraverse .. => "CannotTraverse"
  | unsupportedFormat .. => "UnsupportedMapperShape"
  | notSerializable .. => "Serialize"

def Error.message : Error → String
  | unknownType type => s!"unknown type '{type}'"
  | unknownProperty type property => s!"type '{type}' has no property '{property}'"
  | unresolvedBase type base => s!"base type '{base}' of '{type}' could not be resolved"
  | duplicateProperty type base property =>
    s!"property '{property}' is declared on both '{type}' and its base type '{base}'"
  | noKey type => s!"type '{type}' does not define any key properties"
  | missingKeyProperty type property => s!"missing key property '{property}' for type '{type}'"
  | unexpectedKeyProperty type property =>
    s!"key property '{property}' is not part of the key of '{type}'"
  | unknownCast type target =>
    s!"cannot cast '{type}' to '{target}': no derived type with that name"
  | missingEntitySet part => s!"no entity set is addressed before {part}"
  | unknownFunction type function => s!"function '{function}' is not bound to '{type}'"
  | repeatedClause clause hint => s!"Multiple {clause} clauses detected. {hint}"
  | partAfterQuery part => s!"cannot add {part} after a query has been added"
  | keyNotAllowed type reason => s!"cannot add a key to '{type}': {reason}"
  | propertyNotAllowed type property reason =>
    s!"cannot access property '{property}' of '{type}': {reason}"
  | missingRoot found => s!"uri must start with an entity set or container name, found {found}"
  | argumentCount function expected actual =>
    s!"{function} expects {expected} argument(s), got {actual}"
  | directiveMismatch parameter signature =>
    s!"argument '{parameter}' does not match its declared rewrite in signature {signature}"
  | unresolvedDirective parameter signature =>
    s!"rewrite argument '{parameter}' was not eliminated before evaluating {signature}"
  | duplicateParameter parameter signature =>
    s!"duplicate argument '{parameter}' in signature {signature}"
  | overloadNameMismatch expected actual =>
    s!"signature container '{expected}' cannot hold a signature named '{actual}'"
  | ambiguousResult name =>
    s!"return type of '{name}' is ambiguous; add an output type to resolve the overload"
  | invalidQuery reason => s!"invalid query: {reason}"
  | nestedCollection type => s!"collections of collections are not supported ({type})"
  | cannotTraverse type reason => s!"cannot traverse '{type}': {reason}"
  | unsupportedFormat type parameter reason =>
    s!"mapper for '{type}' cannot be applied to argument '{parameter}': {reason}"
  | notSerializable value type => s!"cannot serialize {value} as '{type}'"

end ODataRequest
