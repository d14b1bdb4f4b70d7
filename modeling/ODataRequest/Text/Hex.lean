namespace ODataRequest.Text

def hexDigit? (char : Char) : Option Nat :=
  if '0' ≤ char ∧ char ≤ '9' then some (char.toNat - '0'.toNat)
  else if 'a' ≤ char ∧ char ≤ 'f' then some (char.toNat - 'a'.toNat + 10)
  else if 'A' ≤ char ∧ char ≤ 'F' then some (char.toNat - 'A'.toNat + 10)
  else none

def readHex? (chars : List Char) : Option Nat :=
  chars.foldlM (fun value char => (hexDigit? char).map (value * 16 + ·)) 0

/-- At least `width` digits in lower case, filled with zeros on the left. -/
def hexNumeral (width n : Nat) : List Char :=
  let digits := Nat.toDigits 16 n
  List.replicate (width - digits.length) '0' ++ digits

def hexOctets (octets : List UInt8) : String :=
  String.ofList (octets.flatMap fun octet => hexNumeral 2 octet.toNat)

def readHexOctets? : List Char → Option (List UInt8)
  | [] => some []
  | [_] => none
  | high :: low :: rest => do
    let octet ← readHex? [high, low]
    pure (UInt8.ofNat octet :: (← readHexOctets? rest))

end ODataRequest.Text
