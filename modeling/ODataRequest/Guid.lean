import ODataRequest.Text.Hex
import ODataRequest.Text.Replace
namespace ODataRequest

structure Guid where
  bits : BitVec 128
  deriving DecidableEq

namespace Guid

/-- Thirty-two lower-case digits in groups of 8, 4, 4, 4 and 12. -/
def text (guid : Guid) : String :=
  let digits := Text.hexNumeral 32 guid.bits.toNat
  let group (start count : Nat) : String := String.ofList ((digits.drop start).take count)
  Text.joined "-" [group 0 8, group 8 4, group 12 4, group 16 4, group 20 12]

def ofHex? (digits : List Char) : Option Guid :=
  (Text.readHex? digits).map fun value => ⟨BitVec.ofNat 128 value⟩

/-- Hyphens stand after 8, 12, 16 and 20 digits and nowhere else. -/
def readHyphenated? (chars : List Char) : Option Guid :=
  let hyphens := [8, 13, 18, 23]
  if chars.length = 36 ∧ hyphens.all (fun i => chars[i]? == some '-') then
    let digit (index : Nat) : Option Char :=
      if hyphens.contains index then none else chars[index]?
    ofHex? ((List.range 36).filterMap digit)
  else none

/-- Accepts 32 digits, the hyphenated form, and that form in braces or as a URN, whose first
parts stand in any case of letters. -/
def ofText? (text : String) : Option Guid :=
  let chars := text.toList
  if chars.length = 32 then ofHex? chars
  else if chars.length = 36 then readHyphenated? chars
  else if chars.length = 38 ∧ chars.head? = some '\x7b' ∧ chars.getLast? = some '\x7d' then
    readHyphenated? ((chars.drop 1).take 36)
  else if (chars.take 9).map Char.toLower = "urn:uuid:".toList then readHyphenated? (chars.drop 9)
  else none

end Guid
end ODataRequest
