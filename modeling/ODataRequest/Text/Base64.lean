namespace ODataRequest.Text

/-- The alphabet that is safe in addresses and file names. -/
def base64Digit (value : Nat) : Char :=
  if value < 26 then Char.ofNat ('A'.toNat + value)
  else if value < 52 then Char.ofNat ('a'.toNat + (value - 26))
  else if value < 62 then Char.ofNat ('0'.toNat + (value - 52))
  else if value = 62 then '-'
  else '_'

/-- Three octets become four digits; a shorter rest is not filled up. -/
def base64 : List UInt8 → List Char
  | a :: b :: c :: rest =>
    let word := a.toNat * 65536 + b.toNat * 256 + c.toNat
    base64Digit (word / 262144) :: base64Digit (word / 4096 % 64) ::
      base64Digit (word / 64 % 64) :: base64Digit (word % 64) :: base64 rest
  | [a, b] =>
    let word := a.toNat * 1024 + b.toNat * 4
    [base64Digit (word / 4096), base64Digit (word / 64 % 64), base64Digit (word % 64)]
  | [a] => [base64Digit (a.toNat / 4), base64Digit (a.toNat % 4 * 16)]
  | [] => []

end ODataRequest.Text
