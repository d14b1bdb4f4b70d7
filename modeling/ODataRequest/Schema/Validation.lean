import ODataRequest.Schema.Inheritance
namespace ODataRequest.Schema

/-- Every inherited property resolves and every key name is a property. -/
def checkType (schema : Schema) (c : ComplexType) : Except Error Unit := do
  (← schema.properties c).forM fun (_, property) =>
    (schema.kind property.type.innermost).map fun _ => ()
  (c.key.getD []).forM fun name => (schema.property c name).map fun _ => ()

def validate (schema : Schema) : Except Error Unit :=
  schema.complexTypes.forM schema.checkType

/-- Collects the types, later ones replacing earlier ones of the same address, and validates. -/
def ofTypes (types : List SchemaType) : Except Error Schema := do
  let schema := types.foldl insert empty
  schema.validate
  pure schema

end ODataRequest.Schema
