import ODataRequest.Json.Number
import ODataRequest.Text.Hex
namespace ODataRequest

inductive JsonToken
  | beginArray
  | endArray
  | beginObject
  | endObject
  | colon
  | comma
  | scalar (value : Json)

namespace JsonToken

def isBlank (char : Char) : Bool :=
  char == ' ' || char == '\n' || char == '\t' || char == '\r'

def isNumberChar (char : Char) : Bool :=
  char.isDigit || char == '-' || char == '+' || char == '.' || char == 'e' || char == 'E'

def unit? (a b c d : Char) : Option Nat := Text.readHex? [a, b, c, d]

def joinSurrogates? (high low : Nat) : Option Char :=
  if 0xD800 ≤ high ∧ high < 0xDC00 ∧ 0xDC00 ≤ low ∧ low < 0xE000 then
    some (Char.ofNat (0x10000 + (high - 0xD800) * 1024 + (low - 0xDC00)))
  else none

def isSurrogate (unit : Nat) : Bool := 0xD800 ≤ unit && unit < 0xE000

def escaped? : Char → Option Char
  | '"' => some '"'
  | '\\' => some '\\'
  | '/' => some '/'
  | 'b' => some '\x08'
  | 'f' => some '\x0c'
  | 'n' => some '\n'
  | 'r' => some '\r'
  | 't' => some '\t'
  | _ => none

def prepend (char : Char) (tail : Option (List Char × List Char)) :
    Option (List Char × List Char) :=
  tail.map fun (chars, rest) => (char :: chars, rest)

/-- The content of a string after its opening quote, and what follows the closing one.
A surrogate stands only in a pair; control characters have to be escaped. -/
def stringBody? : List Char → Option (List Char × List Char)
  | [] => none
  | '"' :: rest => some ([], rest)
  | '\\' :: 'u' :: a :: b :: c :: d :: '\\' :: 'u' :: e :: f :: g :: h :: rest =>
    match unit? a b c d with
    | none => none
    | some unit =>
      if isSurrogate unit then
        match (unit? e f g h).bind (joinSurrogates? unit) with
        | some char => prepend char (stringBody? rest)
        | none => none
      else prepend (Char.ofNat unit) (stringBody? ('\\' :: 'u' :: e :: f :: g :: h :: rest))
  | '\\' :: 'u' :: a :: b :: c :: d :: rest =>
    match unit? a b c d with
    | none => none
    | some unit =>
      if isSurrogate unit then none else prepend (Char.ofNat unit) (stringBody? rest)
  | '\\' :: mark :: rest =>
    match escaped? mark with
    | some char => prepend char (stringBody? rest)
    | none => none
  | char :: rest =>
    if char.toNat < 0x20 ∨ char = '\\' then none else prepend char (stringBody? rest)

def next? (chars : List Char) : Option (JsonToken × List Char) :=
  match chars with
  | [] => none
  | '[' :: rest => some (.beginArray, rest)
  | ']' :: rest => some (.endArray, rest)
  | '\x7b' :: rest => some (.beginObject, rest)
  | '\x7d' :: rest => some (.endObject, rest)
  | ':' :: rest => some (.colon, rest)
  | ',' :: rest => some (.comma, rest)
  | '"' :: rest => (stringBody? rest).map fun (body, rest) =>
      (.scalar (.string (String.ofList body)), rest)
  | 'n' :: 'u' :: 'l' :: 'l' :: rest => some (.scalar .null, rest)
  | 't' :: 'r' :: 'u' :: 'e' :: rest => some (.scalar (.bool true), rest)
  | 'f' :: 'a' :: 'l' :: 's' :: 'e' :: rest => some (.scalar (.bool false), rest)
  | char :: rest =>
    if isNumberChar char then
      (JsonNumber.ofChars? (char :: rest.takeWhile isNumberChar)).map fun n =>
        (.scalar (.number n), rest.dropWhile isNumberChar)
    else none

theorem prepend_eq {char : Char} {tail : Option (List Char × List Char)}
    {body rest : List Char} (read : prepend char tail = some (body, rest)) :
    ∃ body', tail = some (body', rest) := by
  obtain ⟨⟨body', rest'⟩, same, pair⟩ := Option.map_eq_some_iff.mp read
  simp only [Prod.mk.injEq] at pair
  exact ⟨body', by rw [same, pair.2]⟩

theorem stringBody?_length {chars body rest : List Char}
    (read : stringBody? chars = some (body, rest)) : rest.length < chars.length := by
  fun_induction stringBody? chars generalizing body
  all_goals first
    | (simp at read; done)
    | (obtain ⟨body', tail⟩ := prepend_eq read
       rename_i ih
       have := ih tail
       simp only [List.length_cons] at *
       omega)
    | (simp only [Option.some.injEq, Prod.mk.injEq] at read
       simp [read.2])

theorem next?_length {chars rest : List Char} {token : JsonToken}
    (read : next? chars = some (token, rest)) : rest.length < chars.length := by
  unfold next? at read
  split at read
  case h_8 =>
    obtain ⟨⟨_, _⟩, body, pair⟩ := Option.map_eq_some_iff.mp read
    have := stringBody?_length body
    simp only [Prod.mk.injEq] at pair
    simp only [List.length_cons, ← pair.2]
    omega
  case h_12 char rest' _ _ _ _ _ _ _ _ _ _ =>
    split at read
    · obtain ⟨_, _, pair⟩ := Option.map_eq_some_iff.mp read
      have := (List.dropWhile_suffix isNumberChar (l := rest')).length_le
      simp only [Prod.mk.injEq] at pair
      simp only [List.length_cons, ← pair.2]
      omega
    · simp at read
  all_goals
    simp at read
    try simp [← read.2]
    try omega

def all? (chars : List Char) : Option (List JsonToken) :=
  match chars with
  | [] => some []
  | char :: rest =>
    if isBlank char then all? rest
    else match _read : next? (char :: rest) with
      | none => none
      | some (token, rest) => (all? rest).map (token :: ·)
termination_by chars.length
decreasing_by
  · simp
  · exact next?_length _read

end JsonToken
end ODataRequest
