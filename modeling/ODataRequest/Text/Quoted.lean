namespace ODataRequest.Text

def doubleQuotes : List Char → List Char
  | [] => []
  | '\'' :: rest => '\'' :: '\'' :: doubleQuotes rest
  | char :: rest => char :: doubleQuotes rest

def quoted (text : String) : String :=
  String.ofList ('\'' :: doubleQuotes text.toList ++ ['\''])

/-- A backslash stands before every backslash and every double quote. -/
def escapePhrase : List Char → List Char
  | [] => []
  | '\\' :: rest => '\\' :: '\\' :: escapePhrase rest
  | '"' :: rest => '\\' :: '"' :: escapePhrase rest
  | char :: rest => char :: escapePhrase rest

def phrase (text : String) : String :=
  String.ofList ('"' :: escapePhrase text.toList ++ ['"'])

end ODataRequest.Text
