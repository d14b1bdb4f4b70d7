import ODataRequest.Schema.Basic
namespace ODataRequest

structure FunctionParameter where
  name : String
  type : TypeRef
  deriving DecidableEq

structure BoundFunction where
  scope : String
  name : String
  binding : TypeRef
  parameters : List FunctionParameter
  result : TypeRef
  deriving DecidableEq

def BoundFunction.fullName (f : BoundFunction) : String := f.scope ++ "." ++ f.name

structure EntitySet where
  name : String
  container : String
  scope : String
  entityType : TypeRef
  singleton : Bool := false
  functions : List BoundFunction := []
  deriving DecidableEq

namespace EntitySet

/-- A set that takes its scope from its entity type. -/
def ofType (container name : String) (type : TypeRef) : EntitySet :=
  let scope := match type with
    | .named scope _ => scope
    | .collection _ => ""
  ⟨name, container, scope, type, false, []⟩

def asSingleton (set : EntitySet) : EntitySet := { set with singleton := true }

def withFunction (set : EntitySet) (f : BoundFunction) : EntitySet :=
  { set with functions := set.functions ++ [f] }

/-- The type of the bare path: one entity for a singleton, else a collection. -/
def pathType (set : EntitySet) : TypeRef :=
  if set.singleton then set.entityType else .collection set.entityType

def boundFunction (set : EntitySet) (binding : TypeRef) (name : String) :
    Except Error BoundFunction :=
  let matching (f : BoundFunction) : Bool :=
    f.binding == binding && (f.name == name || f.fullName == name)
  match set.functions.find? matching with
  | some f => .ok f
  | none => .error (.unknownFunction binding.text name)

def checkType (schema : Schema) (type : TypeRef) : Except Error Unit :=
  (schema.kind type.innermost).map fun _ => ()

def checkFunction (schema : Schema) (f : BoundFunction) : Except Error Unit := do
  checkType schema f.binding
  checkType schema f.result
  f.parameters.forM fun p => checkType schema p.type

def validate (set : EntitySet) (schema : Schema) : Except Error Unit := do
  if set.entityType.isCollection then .error (.nestedCollection set.entityType.text)
  else
    let _ ← schema.complex set.entityType
    set.functions.forM (checkFunction schema)

end EntitySet
end ODataRequest
