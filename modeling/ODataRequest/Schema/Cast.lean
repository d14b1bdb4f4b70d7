import ODataRequest.Schema.Inheritance
import ODataRequest.Text.Replace
namespace ODataRequest.Schema

def derivesFrom (schema : Schema) (c : ComplexType) (fullName : String) : Bool :=
  match schema.baseChain c with
  | .ok chain => (chain.drop 1).any fun base => base.fullName == fullName
  | .error _ => false

def derivedTypes (schema : Schema) (c : ComplexType) : List ComplexType :=
  schema.complexTypes.filter fun d =>
    d.fullName != c.fullName && schema.derivesFrom d c.fullName

/-- The bare name, or scope and name joined by underscores where types share the name. -/
def casterName (schema : Schema) (c : ComplexType) : String :=
  let sharing := schema.complexTypes.filter fun d => d.name == c.name
  if 1 < sharing.length then Text.replaceAll c.scope "." "_" ++ "_" ++ c.name else c.name

def casters (schema : Schema) (c : ComplexType) : Table TypeRef :=
  .ofList ((schema.derivedTypes c).map fun d => (schema.casterName d, d.type))

/-- Finds a derived type by caster name first, then by full name. -/
def resolveCast (schema : Schema) (c : ComplexType) (target : String) : Except Error TypeRef :=
  let casters := schema.casters c
  match casters.get? target with
  | some type => .ok type
  | none =>
    match casters.values.find? fun type => type.text == target with
    | some type => .ok type
    | none => .error (.unknownCast c.fullName target)

end ODataRequest.Schema
