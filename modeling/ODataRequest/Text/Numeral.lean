namespace ODataRequest

def numeral (n : Nat) : String := String.ofList (Nat.toDigits 10 n)

def signedNumeral (i : Int) : String :=
  if i < 0 then "-" ++ numeral i.natAbs else numeral i.natAbs

def paddedNumeral (width n : Nat) : String :=
  let digits := Nat.toDigits 10 n
  String.ofList (List.replicate (width - digits.length) '0' ++ digits)

def readDigits? : List Char → Option Nat
  | [] => none
  | digits => digits.foldlM (fun value digit =>
      if digit.isDigit then some (value * 10 + (digit.toNat - '0'.toNat)) else none) 0

def readInteger? (chars : List Char) : Option Int :=
  match chars with
  | '-' :: digits => (readDigits? digits).map fun n => -(n : Int)
  | '+' :: digits => (readDigits? digits).map fun n => (n : Int)
  | digits => (readDigits? digits).map fun n => (n : Int)

end ODataRequest
