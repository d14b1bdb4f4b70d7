import ODataRequest.Number.Shortest
namespace ODataRequest

def positional (digits : Nat) (exponent : Int) : String :=
  let text := Nat.toDigits 10 digits
  if 0 ≤ exponent then String.ofList (text ++ List.replicate exponent.toNat '0')
  else
    let places := (-exponent).toNat
    let filled := List.replicate (places + 1 - text.length) '0' ++ text
    let whole := filled.length - places
    String.ofList (filled.take whole ++ '.' :: filled.drop whole)

def scientific (marker : String) (digits : Nat) (exponent : Int) : String :=
  let text := Nat.toDigits 10 digits
  let power := exponent + (text.length - 1 : Nat)
  let mantissa := match text with
    | first :: second :: rest => first :: '.' :: second :: rest
    | short => short
  String.ofList mantissa ++ marker ++ signedNumeral power

namespace Binary64

/-- Positional at every magnitude, whole numbers without a fraction. -/
def plainText (x : Binary64) : String :=
  if x.isNaN then "NaN"
  else
    let magnitude :=
      if x.isInfinite then "inf"
      else if x.isZero then "0"
      else
        let (digits, exponent) := x.shortest .away
        positional digits exponent
    if x.negative then "-" ++ magnitude else magnitude

/-- The text of a finite number in a JSON document: positional from `1e-5` up to below `1e16`,
always with a fraction or a signed exponent. -/
def jsonText (x : Binary64) : String :=
  let magnitude :=
    if x.isZero then "0.0"
    else
      let (digits, exponent) := x.shortest .even
      let point := exponent + (Nat.toDigits 10 digits).length
      if 0 ≤ exponent ∧ point ≤ 16 then positional digits exponent ++ ".0"
      else if -5 < point ∧ point ≤ 16 then positional digits exponent
      else scientific (if 0 < point then "e+" else "e") digits exponent
  if x.negative then "-" ++ magnitude else magnitude

end Binary64
end ODataRequest
