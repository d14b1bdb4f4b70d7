import ODataRequest.Text.Numeral
namespace ODataRequest

structure Binary64 where
  bits : UInt64
  deriving DecidableEq

namespace Binary64

def negative (x : Binary64) : Bool := decide (Nat.pow 2 63 ≤ x.bits.toNat)

def biasedExponent (x : Binary64) : Nat := x.bits.toNat / Nat.pow 2 52 % 2048

def fraction (x : Binary64) : Nat := x.bits.toNat % Nat.pow 2 52

def isNaN (x : Binary64) : Bool := x.biasedExponent == 2047 && x.fraction != 0

def isInfinite (x : Binary64) : Bool := x.biasedExponent == 2047 && x.fraction == 0

def significand (x : Binary64) : Nat :=
  if x.biasedExponent = 0 then x.fraction else Nat.pow 2 52 + x.fraction

def exponent (x : Binary64) : Int :=
  (if x.biasedExponent = 0 then 1 else x.biasedExponent : Int) - 1075

def ofMagnitude (negative : Bool) (magnitude : Nat) : Binary64 :=
  ⟨UInt64.ofNat ((if negative then Nat.pow 2 63 else 0) + magnitude)⟩

def roundHalfEven (numerator denominator : Nat) : Nat :=
  let quotient := numerator / denominator
  let twice := 2 * (numerator % denominator)
  if twice < denominator then quotient
  else if denominator < twice then quotient + 1
  else quotient + quotient % 2

/-- The greatest `e` with `2 ^ e ≤ numerator / denominator`, for positive arguments. -/
def floorLog2 (numerator denominator : Nat) : Int :=
  let guess : Int := (numerator.log2 : Int) - denominator.log2
  if 0 ≤ guess then
    if denominator * Nat.pow 2 guess.toNat ≤ numerator then guess else guess - 1
  else
    if denominator ≤ numerator * Nat.pow 2 (-guess).toNat then guess else guess - 1

/-- The bit pattern of the double nearest to a non-negative quotient, infinity where it overflows.
Adding the significand to the shifted exponent carries into the next binade by itself. -/
def nearestMagnitude (numerator denominator : Nat) : Nat :=
  if numerator = 0 then 0
  else
    let e := max (floorLog2 numerator denominator - 52) (-1074)
    let significand :=
      if 0 ≤ e then roundHalfEven numerator (denominator * Nat.pow 2 e.toNat)
      else roundHalfEven (numerator * Nat.pow 2 (-e).toNat) denominator
    min ((e + 1074).toNat * Nat.pow 2 52 + significand) (2047 * Nat.pow 2 52)

def ofRatio (negative : Bool) (numerator denominator : Nat) : Binary64 :=
  ofMagnitude negative (nearestMagnitude numerator denominator)

def ofNat (n : Nat) : Binary64 := ofRatio false n 1

def ratio (x : Binary64) : Nat × Nat :=
  if 0 ≤ x.exponent then (x.significand * Nat.pow 2 x.exponent.toNat, 1)
  else (x.significand, Nat.pow 2 (-x.exponent).toNat)

def mul (x y : Binary64) : Binary64 :=
  ofRatio false (x.ratio.1 * y.ratio.1) (x.ratio.2 * y.ratio.2)

def div (x y : Binary64) : Binary64 :=
  ofRatio false (x.ratio.1 * y.ratio.2) (x.ratio.2 * y.ratio.1)

def isZero (x : Binary64) : Bool := x.bits.toNat % Nat.pow 2 63 == 0

def neg (x : Binary64) : Binary64 := ⟨x.bits ^^^ 0x8000000000000000⟩

/-- Widens a 32-bit pattern; the value is kept and a signalling NaN becomes quiet. -/
def ofBinary32 (bits : Nat) : Binary64 :=
  let negative := decide (Nat.pow 2 31 ≤ bits)
  let exponent := bits / Nat.pow 2 23 % 256
  let fraction := bits % Nat.pow 2 23
  if exponent = 255 then
    let payload := fraction * Nat.pow 2 29
    ofMagnitude negative
      (2047 * Nat.pow 2 52 + (if fraction = 0 then 0 else payload ||| Nat.pow 2 51))
  else if exponent = 0 then ofRatio negative fraction (Nat.pow 2 149)
  else ofMagnitude negative ((exponent + 896) * Nat.pow 2 52 + fraction * Nat.pow 2 29)

end Binary64
end ODataRequest
