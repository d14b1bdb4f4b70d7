import ODataRequest.Number.FloatText
namespace ODataRequest

/-- The number `digits * 10 ^ (-scale)`; trailing zeros of the scale are kept. -/
structure Decimal where
  digits : Int
  scale : Int
  deriving DecidableEq

namespace Decimal

def isInteger (d : Decimal) : Bool :=
  if d.scale ≤ 0 then true else d.digits.natAbs % Nat.pow 10 d.scale.toNat == 0

/-- Positional, unless more than five zeros follow the point or more than fifteen the digits. -/
def text (d : Decimal) : String :=
  let magnitude := d.digits.natAbs
  let scale := if magnitude = 0 then 0 else d.scale
  let count : Int := (Nat.toDigits 10 magnitude).length
  let body :=
    if 5 < scale - count then scientific "E" magnitude (-scale)
    else if 15 < -scale then numeral magnitude ++ "e+" ++ signedNumeral (-scale)
    else positional magnitude (-scale)
  if d.digits < 0 then "-" ++ body else body

end Decimal
end ODataRequest
