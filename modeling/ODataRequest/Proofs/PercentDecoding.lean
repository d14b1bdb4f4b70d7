import ODataRequest.Text.Hex
import ODataRequest.Text.Percent
import ODataRequest.Text.Utf8
namespace ODataRequest.Text

/-!
Reading percent-encoded text. A triplet stands for an octet and any other character for its own
octets; the octets are read as UTF-8. What the encoding of a component was made of is read back.
-/

def decodeOctets? : List Char → Option (List UInt8)
  | [] => some []
  | '%' :: high :: low :: rest => do
    let octet ← readHex? [high, low]
    let octets ← decodeOctets? rest
    pure (UInt8.ofNat octet :: octets)
  | char :: rest =>
    if char = '%' then none else (decodeOctets? rest).map (String.utf8EncodeChar char ++ ·)

def decodeComponent? (text : String) : Option String := (decodeOctets? text.toList).bind ofUtf8?

section Triplets

theorem hexDigit?_upperHexDigit {value : Nat} (bound : value < 16) :
    hexDigit? (upperHexDigit value) = some value := by
  have each : ∀ digit : Fin 16, hexDigit? (upperHexDigit digit.val) = some digit.val := by decide
  exact each ⟨value, bound⟩

theorem decodeOctets?_percentOctet (octet : UInt8) (rest : List Char) :
    decodeOctets? (percentOctet octet ++ rest) = (decodeOctets? rest).map (octet :: ·) := by
  have size : octet.toNat < 256 := octet.toNat_lt
  have high := hexDigit?_upperHexDigit (show octet.toNat / 16 < 16 by omega)
  have low := hexDigit?_upperHexDigit (show octet.toNat % 16 < 16 by omega)
  have read : readHex? [upperHexDigit (octet.toNat / 16), upperHexDigit (octet.toNat % 16)] =
      some octet.toNat := by
    simp [readHex?, high, low]
    omega
  rw [percentOctet, List.cons_append, List.cons_append, List.cons_append, List.nil_append,
    decodeOctets?, read]
  cases decodeOctets? rest <;> simp

theorem decodeOctets?_percentOctets (octets : List UInt8) (rest : List Char) :
    decodeOctets? (octets.flatMap percentOctet ++ rest) =
      (decodeOctets? rest).map (octets ++ ·) := by
  induction octets with
  | nil => simp
  | cons octet octets ih =>
    rw [List.flatMap_cons, List.append_assoc, decodeOctets?_percentOctet, ih, Option.map_map]
    rfl

theorem percent_reserved : isUnreserved '%' = false := by decide

theorem decodeOctets?_encodeChar (char : Char) (rest : List Char) :
    decodeOctets? (encodeChar char ++ rest) =
      (decodeOctets? rest).map (String.utf8EncodeChar char ++ ·) := by
  unfold encodeChar
  split
  · rename_i unreserved
    have plain : char ≠ '%' := by
      rintro rfl
      rw [percent_reserved] at unreserved
      cases unreserved
    rw [List.singleton_append, decodeOctets?, if_neg plain]
    intro high low others same
    exact absurd same plain
  · exact decodeOctets?_percentOctets _ rest

theorem decodeOctets?_encode (chars : List Char) :
    decodeOctets? (chars.flatMap encodeChar) = some (chars.flatMap String.utf8EncodeChar) := by
  induction chars with
  | nil => rfl
  | cons char rest ih =>
    rw [List.flatMap_cons, decodeOctets?_encodeChar, ih, List.flatMap_cons]
    rfl

end Triplets

section Utf8

variable {n : Nat} {char : Char} {begun next : PartialChar}

theorem toNat_octet (octet : n < 256) : (UInt8.ofNat n).toNat = n := by
  simp
  omega

theorem decodeFrom_first_complete (octet : n < 256) (rest : List UInt8)
    (first : firstOctet n = .complete char) :
    decodeFrom none (UInt8.ofNat n :: rest) = some char :: decodeFrom none rest := by
  rw [decodeFrom]
  simp only [toNat_octet octet, first, List.nil_append]

theorem decodeFrom_first_pending (octet : n < 256) (rest : List UInt8)
    (first : firstOctet n = .pending next) :
    decodeFrom none (UInt8.ofNat n :: rest) = decodeFrom (some next) rest := by
  rw [decodeFrom]
  simp only [toNat_octet octet, first, List.nil_append]

theorem decodeFrom_next_complete (octet : n < 256) (rest : List UInt8)
    (step : nextOctet begun n = .complete char) :
    decodeFrom (some begun) (UInt8.ofNat n :: rest) = some char :: decodeFrom none rest := by
  rw [decodeFrom]
  simp only [toNat_octet octet, step]

theorem decodeFrom_next_pending (octet : n < 256) (rest : List UInt8)
    (step : nextOctet begun n = .pending next) :
    decodeFrom (some begun) (UInt8.ofNat n :: rest) = decodeFrom (some next) rest := by
  rw [decodeFrom]
  simp only [toNat_octet octet, step]

theorem nextOctet_complete {low high bits tail : Nat} (above : low ≤ tail + 128)
    (below : tail + 128 ≤ high) :
    nextOctet ⟨1, low, high, bits⟩ (tail + 128) = .complete (Char.ofNat (bits * 64 + tail)) := by
  unfold nextOctet
  rw [if_pos ⟨above, below⟩, Nat.add_sub_cancel]
  rfl

theorem nextOctet_pending {missing low high bits tail : Nat} (above : low ≤ tail + 128)
    (below : tail + 128 ≤ high) :
    nextOctet ⟨missing + 2, low, high, bits⟩ (tail + 128) =
      .pending ⟨missing + 1, 0x80, 0xBF, bits * 64 + tail⟩ := by
  unfold nextOctet
  rw [if_pos ⟨above, below⟩, Nat.add_sub_cancel]
  dsimp only
  rw [if_neg (by omega)]
  rfl

theorem firstOctet_two {v : Nat} (low : 0x80 ≤ v) (high : v < 0x800) :
    firstOctet (v / 64 % 32 + 192) = .pending ⟨1, 0x80, 0xBF, v / 64⟩ := by
  have bits : v / 64 % 32 + 192 - 0xC0 = v / 64 := by omega
  unfold firstOctet
  rw [if_neg (by omega), if_neg (by omega), if_pos (by omega), bits]

/-- The second of three octets is limited where a shorter form or a surrogate would begin, and no
character leads there. -/
theorem firstOctet_three {v : Nat} (low : 0x800 ≤ v) (high : v < 0x10000)
    (scalar : v < 0xD800 ∨ 0xDFFF < v) :
    ∃ least greatest, firstOctet (v / 4096 % 16 + 224) =
        .pending ⟨2, least, greatest, v / 4096⟩ ∧
      least ≤ v / 64 % 64 + 128 ∧ v / 64 % 64 + 128 ≤ greatest := by
  unfold firstOctet
  rw [if_neg (by omega), if_neg (by omega), if_neg (by omega)]
  by_cases shortest : v / 4096 % 16 + 224 = 0xE0
  · have bits : v / 4096 = 0 := by omega
    rw [if_pos shortest, bits]
    exact ⟨_, _, rfl, by omega, by omega⟩
  · rw [if_neg shortest]
    by_cases surrogates : v / 4096 % 16 + 224 = 0xED
    · have bits : v / 4096 = 0x0D := by omega
      rw [if_pos surrogates, bits]
      exact ⟨_, _, rfl, by omega, by omega⟩
    · have bits : v / 4096 % 16 + 224 - 0xE0 = v / 4096 := by omega
      rw [if_neg surrogates, if_pos (by omega), bits]
      exact ⟨_, _, rfl, by omega, by omega⟩

theorem firstOctet_four {v : Nat} (low : 0x10000 ≤ v) (high : v < 0x110000) :
    ∃ least greatest, firstOctet (v / 262144 % 8 + 240) =
        .pending ⟨3, least, greatest, v / 262144⟩ ∧
      least ≤ v / 4096 % 64 + 128 ∧ v / 4096 % 64 + 128 ≤ greatest := by
  unfold firstOctet
  rw [if_neg (by omega), if_neg (by omega), if_neg (by omega), if_neg (by omega),
    if_neg (by omega), if_neg (by omega)]
  by_cases shortest : v / 262144 % 8 + 240 = 0xF0
  · have bits : v / 262144 = 0 := by omega
    rw [if_pos shortest, bits]
    exact ⟨_, _, rfl, by omega, by omega⟩
  · rw [if_neg shortest]
    by_cases middle : v / 262144 % 8 + 240 < 0xF4
    · have bits : v / 262144 % 8 + 240 - 0xF0 = v / 262144 := by omega
      rw [if_pos middle, bits]
      exact ⟨_, _, rfl, by omega, by omega⟩
    · have bits : v / 262144 = 4 := by omega
      rw [if_neg middle, if_pos (by omega), bits]
      exact ⟨_, _, rfl, by omega, by omega⟩

theorem decodeFrom_utf8EncodeChar (char : Char) (rest : List UInt8) :
    decodeFrom none (String.utf8EncodeChar char ++ rest) = some char :: decodeFrom none rest := by
  have whole : Char.ofNat char.val.toNat = char := Char.ofNat_toNat char
  have scalar : char.val.toNat < 0xD800 ∨ 0xDFFF < char.val.toNat ∧ char.val.toNat < 0x110000 :=
    char.valid
  unfold String.utf8EncodeChar
  generalize char.val.toNat = v at whole scalar
  dsimp only
  have two : v / 64 * 64 + v % 64 = v := by omega
  have three : v / 4096 * 64 + v / 64 % 64 = v / 64 := by omega
  have four : v / 262144 * 64 + v / 4096 % 64 = v / 4096 := by omega
  split
  · have first : firstOctet v = .complete char := by
      rw [firstOctet, if_pos (by omega), whole]
    exact decodeFrom_first_complete (by omega) rest first
  have last {least greatest : Nat} (above : least ≤ v % 64 + 128)
      (below : v % 64 + 128 ≤ greatest) :
      nextOctet ⟨1, least, greatest, v / 64⟩ (v % 64 + 128) = .complete char := by
    rw [nextOctet_complete above below, two, whole]
  split
  · have first := firstOctet_two (show 0x80 ≤ v by omega) (by omega)
    rw [List.cons_append, decodeFrom_first_pending (by omega) _ first, List.cons_append,
      decodeFrom_next_complete (by omega) _ (last (by omega) (by omega)), List.nil_append]
  have third {missing least greatest : Nat} (above : least ≤ v / 64 % 64 + 128)
      (below : v / 64 % 64 + 128 ≤ greatest) :
      nextOctet ⟨missing + 2, least, greatest, v / 4096⟩ (v / 64 % 64 + 128) =
        .pending ⟨missing + 1, 0x80, 0xBF, v / 64⟩ := by
    rw [nextOctet_pending above below, three]
  split
  · obtain ⟨least, greatest, first, above, below⟩ :=
      firstOctet_three (show 0x800 ≤ v by omega) (by omega) (by omega)
    rw [List.cons_append, decodeFrom_first_pending (by omega) _ first, List.cons_append,
      decodeFrom_next_pending (by omega) _ (third above below), List.cons_append,
      decodeFrom_next_complete (by omega) _ (last (by omega) (by omega)), List.nil_append]
  · obtain ⟨least, greatest, first, above, below⟩ :=
      firstOctet_four (show 0x10000 ≤ v by omega) (by omega)
    have second : nextOctet ⟨3, least, greatest, v / 262144⟩ (v / 4096 % 64 + 128) =
        .pending ⟨2, 0x80, 0xBF, v / 4096⟩ := by
      rw [nextOctet_pending above below, four]
    rw [List.cons_append, decodeFrom_first_pending (by omega) _ first, List.cons_append,
      decodeFrom_next_pending (by omega) _ second, List.cons_append,
      decodeFrom_next_pending (by omega) _ (third (by omega) (by omega)), List.cons_append,
      decodeFrom_next_complete (by omega) _ (last (by omega) (by omega)), List.nil_append]

theorem decodeFrom_utf8Encode (chars : List Char) :
    decodeFrom none (chars.flatMap String.utf8EncodeChar) = chars.map some := by
  induction chars with
  | nil => rfl
  | cons char rest ih => rw [List.flatMap_cons, decodeFrom_utf8EncodeChar, ih, List.map_cons]

theorem ofUtf8?_utf8Encode (chars : List Char) :
    ofUtf8? (chars.flatMap String.utf8EncodeChar) = some (String.ofList chars) := by
  have sound : (chars.map some).mapM id = some chars := by
    induction chars with
    | nil => rfl
    | cons char rest ih => simp [ih]
  rw [ofUtf8?, decodeUtf8, decodeFrom_utf8Encode, sound]
  rfl

end Utf8

theorem decodeComponent?_encodeComponent (text : String) :
    decodeComponent? (encodeComponent text) = some text := by
  rw [decodeComponent?, encodeComponent, String.toList_ofList, decodeOctets?_encode,
    Option.bind_some, ofUtf8?_utf8Encode, String.ofList_toList]

theorem encodeComponent_injective : Function.Injective encodeComponent := by
  intro text text' same
  have decoded := decodeComponent?_encodeComponent text
  rw [same, decodeComponent?_encodeComponent] at decoded
  exact (Option.some.inj decoded).symm

section Marks

variable {char mark : Char}

theorem upperHexDigit_unreserved {value : Nat} (bound : value < 16) :
    isUnreserved (upperHexDigit value) = true := by
  have each : ∀ digit : Fin 16, isUnreserved (upperHexDigit digit.val) = true := by decide
  exact each ⟨value, bound⟩

theorem unreserved_of_mem_encodeChar (member : mark ∈ encodeChar char) :
    isUnreserved mark = true ∨ mark = '%' := by
  unfold encodeChar at member
  split at member
  · rename_i unreserved
    rw [List.mem_singleton.mp member]
    exact .inl unreserved
  · rcases List.mem_flatMap.mp member with ⟨octet, _, member⟩
    have size : octet.toNat < 256 := octet.toNat_lt
    simp only [percentOctet, List.mem_cons, List.not_mem_nil, or_false] at member
    rcases member with rfl | rfl | rfl
    · exact .inr rfl
    · exact .inl (upperHexDigit_unreserved (by omega))
    · exact .inl (upperHexDigit_unreserved (by omega))

theorem not_mem_encodeComponent (reserved : isUnreserved mark = false) (other : mark ≠ '%')
    (text : String) : mark ∉ (encodeComponent text).toList := by
  rw [encodeComponent, String.toList_ofList]
  intro member
  rcases List.mem_flatMap.mp member with ⟨char, _, member⟩
  rcases unreserved_of_mem_encodeChar member with unreserved | percent
  · rw [reserved] at unreserved
    cases unreserved
  · exact other percent

end Marks

end ODataRequest.Text
