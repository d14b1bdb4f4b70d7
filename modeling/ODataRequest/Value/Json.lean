import ODataRequest.Json.Basic
import ODataRequest.Value
namespace ODataRequest

/-!
Values as JSON documents: a tag and a content. A float stands as its bits, a decimal as its
digits and scale, so nothing is lost to a decimal notation.
-/

namespace Date

def ofJson? : Json → Option Date
  | .array [year, month, day] => do
    pure ⟨← year.int64?, (← month.int64?).toNat, (← day.int64?).toNat⟩
  | _ => none

end Date

namespace TimeOfDay

def ofJson? : Json → Option TimeOfDay
  | .array [hour, minute, second, nanosecond] => do
    pure ⟨(← hour.int64?).toNat, (← minute.int64?).toNat, (← second.int64?).toNat,
      (← nanosecond.int64?).toNat⟩
  | _ => none

end TimeOfDay

namespace Value

def tagged (tag : String) (content : Json) : Json :=
  .ofFields [("t", .string tag), ("v", content)]

mutual

def toJson : Value → Json
  | null => .ofFields [("t", .string "null")]
  | bool b => tagged "bool" (.bool b)
  | int i => tagged "int" (.ofInt i)
  | float x => tagged "float" (.string (String.ofList (Text.hexNumeral 16 x.bits.toNat)))
  | decimal d =>
    .ofFields [("t", .string "decimal"), ("digits", .string (signedNumeral d.digits)),
      ("scale", .ofInt d.scale)]
  | string s => tagged "string" (.string s)
  | guid g => tagged "guid" (.string g.text)
  | dateTimeOffset moment => tagged "dto" (.string moment.text)
  | date d => tagged "date" (.string d.text)
  | timeOfDay t => tagged "time" (.string t.text)
  | duration d => tagged "duration" (.string d.text)
  | binary octets => tagged "binary" (.string (Text.hexOctets octets))
  | member name => tagged "member" (.string name)
  | list items => tagged "list" (.array (itemsToJson items))
  | raw text => tagged "raw" (.string text)

def itemsToJson : List Value → List Json
  | [] => []
  | item :: rest => item.toJson :: itemsToJson rest

end

/-- A date and a time of day with an offset, which is UTC if none is given. -/
def momentOfJson? (json : Json) : Option DateTimeOffset := do
  let date ← (json.present? "date").bind Date.ofJson?
  let time ← (json.present? "time").bind TimeOfDay.ofJson?
  pure ⟨date, time, ((json.present? "offset").bind Json.int64?).getD 0⟩

def decimalOfJson? (json : Json) : Option Decimal := do
  let digits ← (json.text? "digits").bind fun text => readInteger? text.toList
  pure ⟨digits, ← (json.present? "scale").bind Json.int64?⟩

def durationOfJson? (json : Json) : Option Duration := do
  let seconds ← (json.present? "secs").bind Json.int64?
  let nanoseconds ← (json.present? "nanos").bind Json.int64?
  pure ⟨seconds * 1000000000 + nanoseconds⟩

/-- A value that holds no others. The tags of numbers may name a narrower width; a missing truth
value is false. -/
def scalarOfJson? (tag : String) (json : Json) : Option Value :=
  let text := json.text? "v"
  match tag with
  | "null" => some null
  | "bool" => some (bool (json.isSet "v"))
  | "int" | "i32" | "u32" => ((json.present? "v").bind Json.int64?).map int
  | "float" => (text.bind fun s => Text.readHex? s.toList).map fun n => float ⟨UInt64.ofNat n⟩
  | "f32" => (text.bind fun s => Text.readHex? s.toList).map fun n => float (.ofBinary32 n)
  | "decimal" => (decimalOfJson? json).map decimal
  | "string" => text.map string
  | "guid" => (text.bind Guid.ofText?).map guid
  | "dto" | "utc" => (momentOfJson? json).map dateTimeOffset
  | "date" => ((json.present? "v").bind Date.ofJson?).map date
  | "time" => ((json.present? "v").bind TimeOfDay.ofJson?).map timeOfDay
  | "duration" => (durationOfJson? json).map duration
  | "binary" => (text.bind fun s => Text.readHexOctets? s.toList).map binary
  | "member" => text.map member
  | "raw" => text.map raw
  | _ => none

mutual

/-- A value by its tag. An optional value that is missing is null, a missing list is empty. -/
def ofJson? : Json → Option Value
  | .object fields =>
    match lookupNamed "t" fields with
    | some (.string "list") | some (.string "vec") => (listOfFields? fields).map list
    | some (.string "opt") => innerOfFields? fields
    | some (.string tag) => scalarOfJson? tag (.object fields)
    | _ => none
  | _ => none

def listOfFields? : List (String × Json) → Option (List Value)
  | [] => some []
  | ("v", .null) :: _ => some []
  | ("v", .array items) :: _ => itemsOfJson? items
  | ("v", _) :: _ => none
  | _ :: rest => listOfFields? rest

def innerOfFields? : List (String × Json) → Option Value
  | [] => some null
  | ("v", .null) :: _ => some null
  | ("v", json) :: _ => ofJson? json
  | _ :: rest => innerOfFields? rest

def itemsOfJson? : List Json → Option (List Value)
  | [] => some []
  | json :: rest => do pure ((← ofJson? json) :: (← itemsOfJson? rest))

end

end Value
end ODataRequest
