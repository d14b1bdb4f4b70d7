import ODataRequest.Table
namespace ODataRequest

def isTokenChar (char : Char) : Bool :=
  char.isAlphanum || "!#$%&'*+-.^_\x60|~".toList.contains char

def isHeaderChar (char : Char) : Bool :=
  (0x20 ≤ char.toNat && char.toNat != 0x7F) || char == '\t'

/-- The headers of a message. Names are kept in lower case, so case does not tell them apart. -/
structure Headers where
  values : Table String

namespace Headers

def empty : Headers := ⟨.empty⟩

/-- Sets a header, in place of one of the same name. An unsound name or value changes nothing. -/
def set (headers : Headers) (name value : String) : Headers :=
  if !name.isEmpty && name.all isTokenChar && value.all isHeaderChar then
    ⟨headers.values.insert name.toLower value⟩
  else headers

def ofList (entries : List (String × String)) : Headers :=
  entries.foldl (fun headers entry => headers.set entry.1 entry.2) empty

def get? (headers : Headers) (name : String) : Option String := headers.values.get? name.toLower

end Headers
end ODataRequest
