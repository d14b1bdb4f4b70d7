import ODataRequest.Json.Basic
namespace ODataRequest

/-!
Reading JSON numbers. Integers of 64 bits are kept; everything else becomes a double. Digits
count as long as their number fits into 64 bits; a fraction's further digits are dropped and an
integer's further digits raise the exponent. The significand is then scaled by one table power
of ten at a time, each scaling rounded by itself.
-/

namespace JsonNumber

def spanDigits (chars : List Char) : List Char × List Char := chars.span Char.isDigit

def digitValue (char : Char) : Nat := char.toNat - '0'.toNat

def takeDigits (value : Nat) : List Char → Nat × List Char
  | [] => (value, [])
  | digit :: rest =>
    let next := value * 10 + digitValue digit
    if next < Nat.pow 2 64 then takeDigits next rest else (value, digit :: rest)

def powerOfTen (exponent : Nat) : Binary64 := .ofNat (Nat.pow 10 exponent)

/-- Divides by the greatest table power until the exponent is in the table. -/
def scaleDown (x : Binary64) : Nat → Nat → Binary64
  | 0, _ => x
  | rounds + 1, exponent =>
    if exponent ≤ 308 then x.div (powerOfTen exponent)
    else if x.isZero then x
    else scaleDown (x.div (powerOfTen 308)) rounds (exponent - 308)

def scaled (significand : Nat) (exponent : Int) : Option Binary64 :=
  let x := Binary64.ofNat significand
  if 0 ≤ exponent then
    if exponent ≤ 308 then
      let product := x.mul (powerOfTen exponent.toNat)
      if product.isInfinite then none else some product
    else if x.isZero then some x
    else none
  else some (scaleDown x ((-exponent).toNat / 308 + 1) (-exponent).toNat)

structure Lexeme where
  negative : Bool
  whole : List Char
  fraction : Option (List Char)
  exponent : Option (Bool × List Char)

def clampExponent (e : Int) : Int := max (-0x80000000) (min e 0x7fffffff)

/-- An integer without sign is kept below `2 ^ 64`, a negative one from `-2 ^ 63` on;
minus zero is a double. -/
def ofInteger (negative : Bool) (value : Nat) : JsonNumber :=
  if negative then
    if 0 < value ∧ value ≤ Nat.pow 2 63 then .integer (-(value : Int))
    else .float (Binary64.ofNat value).neg
  else .integer value

def signed (negative : Bool) (x : Binary64) : JsonNumber :=
  .float (if negative then x.neg else x)

def ofLexeme? (lexeme : Lexeme) : Option JsonNumber :=
  let (significand, overflow) := takeDigits 0 lexeme.whole
  match overflow, lexeme.fraction, lexeme.exponent with
  | [], none, none => some (ofInteger lexeme.negative significand)
  | _, _, _ =>
    let digits := lexeme.fraction.getD []
    let (significand, dropped) := takeDigits significand digits
    let places : Int := overflow.length - ((digits.length - dropped.length : Nat) : Int)
    match lexeme.exponent with
    | none => (scaled significand places).map (signed lexeme.negative)
    | some (negativeExponent, digits) =>
      let exponent := digits.foldl (fun value digit => value * 10 + digitValue digit) 0
      if exponent < Nat.pow 2 31 then
        let total := if negativeExponent then places - exponent else places + exponent
        (scaled significand (clampExponent total)).map (signed lexeme.negative)
      else if significand ≠ 0 ∧ !negativeExponent then none
      else some (signed lexeme.negative ⟨0⟩)

/-- Splits a number's text after the grammar: no leading zeros, digits on both sides of a point
and after the exponent's sign. -/
def lexeme? (chars : List Char) : Option Lexeme :=
  let (negative, chars) := match chars with
    | '-' :: rest => (true, rest)
    | rest => (false, rest)
  let (whole, chars) := spanDigits chars
  let soundWhole := match whole with
    | [] => false
    | '0' :: _ :: _ => false
    | _ => true
  let (fraction, chars) := match chars with
    | '.' :: rest => let (digits, rest) := spanDigits rest; (some digits, rest)
    | rest => (none, rest)
  let (exponent, chars) := match chars with
    | mark :: rest =>
      if mark = 'e' ∨ mark = 'E' then
        let (negative, rest) := match rest with
          | '-' :: rest => (true, rest)
          | '+' :: rest => (false, rest)
          | rest => (false, rest)
        let (digits, rest) := spanDigits rest
        (some (negative, digits), rest)
      else (none, mark :: rest)
    | [] => (none, [])
  let soundFraction := fraction.all fun digits => !digits.isEmpty
  let soundExponent := exponent.all fun e => !e.2.isEmpty
  if soundWhole && soundFraction && soundExponent && chars.isEmpty then
    some ⟨negative, whole, fraction, exponent⟩
  else none

def ofChars? (chars : List Char) : Option JsonNumber := (lexeme? chars).bind ofLexeme?

end JsonNumber
end ODataRequest
