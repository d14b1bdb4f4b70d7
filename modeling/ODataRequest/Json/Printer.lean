import ODataRequest.Json.Basic
import ODataRequest.Number.FloatText
import ODataRequest.Text.Hex
import ODataRequest.Text.Replace
namespace ODataRequest.Json

def escapeChar (char : Char) : List Char :=
  match char with
  | '"' => ['\\', '"']
  | '\\' => ['\\', '\\']
  | '\x08' => ['\\', 'b']
  | '\x0c' => ['\\', 'f']
  | '\n' => ['\\', 'n']
  | '\r' => ['\\', 'r']
  | '\t' => ['\\', 't']
  | char =>
    if char.toNat < 0x20 then '\\' :: 'u' :: Text.hexNumeral 4 char.toNat else [char]

def stringText (s : String) : String :=
  String.ofList ('"' :: s.toList.flatMap escapeChar ++ ['"'])

def numberText : JsonNumber → String
  | .integer i => signedNumeral i
  | .float x => x.jsonText

mutual

def text : Json → String
  | null => "null"
  | bool b => if b then "true" else "false"
  | number n => numberText n
  | string s => stringText s
  | array items => "[" ++ Text.joined "," (itemTexts items) ++ "]"
  | object fields => "\x7b" ++ Text.joined "," (fieldTexts fields) ++ "\x7d"

def itemTexts : List Json → List String
  | [] => []
  | item :: rest => text item :: itemTexts rest

def fieldTexts : List (String × Json) → List String
  | [] => []
  | (name, value) :: rest => (stringText name ++ ":" ++ text value) :: fieldTexts rest

end

end ODataRequest.Json
