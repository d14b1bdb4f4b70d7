namespace ODataRequest.Text

/-!
Octets as text. A decoder walks over the octets and yields characters and, where the octets are
malformed, gaps. A gap spans the longest run of octets that could still have begun a character.
-/

/-- A character part way through: how many octets are missing, the range that the next one has
to be in, and the bits read so far. -/
structure PartialChar where
  missing : Nat
  low : Nat
  high : Nat
  bits : Nat

inductive Utf8Step
  | complete (char : Char)
  | pending (partialChar : PartialChar)
  | malformed

/-- The first octet of a character. Its successor is limited where a shorter form exists, and
where surrogates or numbers beyond Unicode would follow. -/
def firstOctet (octet : Nat) : Utf8Step :=
  if octet < 0x80 then .complete (Char.ofNat octet)
  else if octet < 0xC2 then .malformed
  else if octet < 0xE0 then .pending ⟨1, 0x80, 0xBF, octet - 0xC0⟩
  else if octet = 0xE0 then .pending ⟨2, 0xA0, 0xBF, 0⟩
  else if octet = 0xED then .pending ⟨2, 0x80, 0x9F, 0x0D⟩
  else if octet < 0xF0 then .pending ⟨2, 0x80, 0xBF, octet - 0xE0⟩
  else if octet = 0xF0 then .pending ⟨3, 0x90, 0xBF, 0⟩
  else if octet < 0xF4 then .pending ⟨3, 0x80, 0xBF, octet - 0xF0⟩
  else if octet = 0xF4 then .pending ⟨3, 0x80, 0x8F, 4⟩
  else .malformed

def nextOctet (partialChar : PartialChar) (octet : Nat) : Utf8Step :=
  if partialChar.low ≤ octet ∧ octet ≤ partialChar.high then
    let bits := partialChar.bits * 64 + (octet - 0x80)
    if partialChar.missing ≤ 1 then .complete (Char.ofNat bits)
    else .pending ⟨partialChar.missing - 1, 0x80, 0xBF, bits⟩
  else .malformed

/-- The characters of the octets; `none` stands for a gap. An octet that cannot go on with a
character is looked at again as the first of the next one. -/
def decodeFrom (begun : Option PartialChar) : List UInt8 → List (Option Char)
  | [] => match begun with
    | none => []
    | some _ => [none]
  | octet :: rest =>
    let fresh (gaps : List (Option Char)) : List (Option Char) :=
      match firstOctet octet.toNat with
      | .complete char => gaps ++ some char :: decodeFrom none rest
      | .pending partialChar => gaps ++ decodeFrom (some partialChar) rest
      | .malformed => gaps ++ none :: decodeFrom none rest
    match begun with
    | none => fresh []
    | some partialChar =>
      match nextOctet partialChar octet.toNat with
      | .complete char => some char :: decodeFrom none rest
      | .pending partialChar => decodeFrom (some partialChar) rest
      | .malformed => fresh [none]

def decodeUtf8 (octets : List UInt8) : List (Option Char) := decodeFrom none octets

def ofUtf8? (octets : List UInt8) : Option String :=
  ((decodeUtf8 octets).mapM id).map String.ofList

def ofUtf8Lossy (octets : List UInt8) : String :=
  String.ofList ((decodeUtf8 octets).map fun char => char.getD '\uFFFD')

def toUtf8 (text : String) : List UInt8 := text.toList.flatMap String.utf8EncodeChar

end ODataRequest.Text
