import ODataRequest.Json.Basic
import ODataRequest.Aliases
namespace ODataRequest

def Rendering.toJson (r : Rendering) : Json :=
  .ofFields [("text", .ofOptionalText r.text),
    ("root", .ofOptionalText (r.root.bind RootSymbol.context))]

def Alias.kindName (param : Alias) : String :=
  match param.payload with
  | .reference _ => "ref"
  | .constant _ _ => "const"
  | .text _ => "param"

def AliasList.namesJson (aliases : AliasList) : Json :=
  .ofStrings (aliases.params.map AliasOf.name)

def AliasList.toJson (aliases : AliasList) : Json :=
  .ofFields [("names", aliases.namesJson), ("len", .ofInt aliases.params.length),
    ("empty", .bool aliases.params.isEmpty),
    ("kinds", .ofStrings (aliases.params.map Alias.kindName))]

end ODataRequest
