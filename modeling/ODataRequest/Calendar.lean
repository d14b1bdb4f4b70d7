import ODataRequest.Text.Numeral
namespace ODataRequest

structure Date where
  year : Int
  month : Nat
  day : Nat
  deriving DecidableEq

/-- A time of day. A leap second is second 59 with a nanosecond count of a thousand million
or more. -/
structure TimeOfDay where
  hour : Nat
  minute : Nat
  second : Nat
  nanosecond : Nat
  deriving DecidableEq

/-- Local date and time with the distance from UTC in seconds east. -/
structure DateTimeOffset where
  date : Date
  time : TimeOfDay
  offset : Int
  deriving DecidableEq

structure Duration where
  nanoseconds : Int
  deriving DecidableEq

/-- Years outside 0 to 9999 carry a sign; four digits at least. -/
def yearText (year : Int) : String :=
  if 0 ≤ year ∧ year ≤ 9999 then paddedNumeral 4 year.natAbs
  else (if year < 0 then "-" else "+") ++ paddedNumeral 4 year.natAbs

def Date.text (date : Date) : String :=
  yearText date.year ++ "-" ++ paddedNumeral 2 date.month ++ "-" ++ paddedNumeral 2 date.day

/-- Three, six or nine places, as few as are exact; nothing for a whole second. -/
def fractionText (nanoseconds : Nat) : String :=
  if nanoseconds = 0 then ""
  else if nanoseconds % 1000000 = 0 then "." ++ paddedNumeral 3 (nanoseconds / 1000000)
  else if nanoseconds % 1000 = 0 then "." ++ paddedNumeral 6 (nanoseconds / 1000)
  else "." ++ paddedNumeral 9 nanoseconds

def TimeOfDay.text (time : TimeOfDay) : String :=
  let leap := time.nanosecond / 1000000000
  paddedNumeral 2 time.hour ++ ":" ++ paddedNumeral 2 time.minute ++ ":" ++
    paddedNumeral 2 (time.second + leap) ++ fractionText (time.nanosecond % 1000000000)

/-- The offset to the nearest minute, a half away from zero. -/
def offsetText (offset : Int) : String :=
  let minutes := (offset.natAbs + 30) / 60
  (if offset < 0 then "-" else "+") ++ paddedNumeral 2 (minutes / 60) ++ ":" ++
    paddedNumeral 2 (minutes % 60)

def DateTimeOffset.text (moment : DateTimeOffset) : String :=
  moment.date.text ++ "T" ++ moment.time.text ++ offsetText moment.offset

namespace Duration

def signText (d : Duration) : String := if d.nanoseconds < 0 then "-" else ""

def seconds (d : Duration) : Nat := d.nanoseconds.natAbs / 1000000000

/-- Seconds with as many places as needed; `P0D` for zero. -/
def text (d : Duration) : String :=
  if d.nanoseconds = 0 then "P0D"
  else
    let rest := d.nanoseconds.natAbs % 1000000000
    let places := ((paddedNumeral 9 rest).toList.reverse.dropWhile (· == '0')).reverse
    let fraction := if rest = 0 then "" else "." ++ String.ofList places
    d.signText ++ "PT" ++ numeral d.seconds ++ fraction ++ "S"

/-- Days, hours, minutes and seconds, with three places if there are milliseconds. -/
def literalText (d : Duration) : String :=
  let millis := d.nanoseconds.natAbs / 1000000 % 1000
  let fraction := if millis = 0 then "" else "." ++ paddedNumeral 3 millis
  d.signText ++ "P" ++ numeral (d.seconds / 86400) ++ "DT" ++ numeral (d.seconds / 3600 % 24) ++
    "H" ++ numeral (d.seconds / 60 % 60) ++ "M" ++ numeral (d.seconds % 60) ++ fraction ++ "S"

end Duration
end ODataRequest
