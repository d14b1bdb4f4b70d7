import ODataRequest.Text.Replace
import ODataRequest.Text.Shapeless
namespace ODataRequest.Text

/-- A character of a logged string. What has no shape is written by its number. -/
def logChar (char : Char) : List Char :=
  match char with
  | '\x00' => ['\\', '0']
  | '\t' => ['\\', 't']
  | '\r' => ['\\', 'r']
  | '\n' => ['\\', 'n']
  | '"' => ['\\', '"']
  | '\\' => ['\\', '\\']
  | char =>
    if isShapeless char then '\\' :: 'u' :: '\x7b' :: Nat.toDigits 16 char.toNat ++ ['\x7d']
    else [char]

def logString (text : String) : String :=
  String.ofList ('"' :: text.toList.flatMap logChar ++ ['"'])

def logList (items : List String) : String := "[" ++ joined ", " items ++ "]"

/-- A record with named fields; dots stand for fields that are left out. -/
def logRecord (name : String) (fields : List (String × String)) (leftOut : Bool) : String :=
  let texts := fields.map fun field => field.1 ++ ": " ++ field.2
  let texts := if leftOut then texts ++ [".."] else texts
  name ++ " \x7b " ++ joined ", " texts ++ " \x7d"

def logBool (b : Bool) : String := if b then "true" else "false"

end ODataRequest.Text
