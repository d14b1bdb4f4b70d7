import Mathlib.Data.List.Basic
import ODataRequest.Proofs.Utf8Runs
namespace ODataRequest.Text

variable {char : Char} {octet : UInt8}

section Octets

/-- An octet as it is written where some characters of ASCII are reserved. Octets beyond ASCII are
always written as triplets. -/
def encodeOctet (reserved : Char → Bool) (octet : UInt8) : List Char :=
  if 0x80 ≤ octet.toNat ∨ reserved (Char.ofNat octet.toNat) = true then percentOctet octet
  else [Char.ofNat octet.toNat]

def percentEncode (reserved : Char → Bool) (text : String) : String :=
  String.ofList ((toUtf8 text).flatMap (encodeOctet reserved))

theorem ascii_of_isAlphanum (alphanumeric : char.isAlphanum = true) : char.toNat < 0x80 := by
  have bound : char.toNat ≤ 0x5A ∨ char.toNat ≤ 0x7A ∨ char.toNat ≤ 0x39 := by
    rcases (Bool.or_eq_true _ _).mp alphanumeric with letter | digit
    · rcases (Bool.or_eq_true _ _).mp letter with upper | lower
      · exact .inl (of_decide_eq_true upper).2
      · exact .inr (.inl (of_decide_eq_true ((Bool.and_eq_true _ _).mp lower).2))
    · exact .inr (.inr (of_decide_eq_true ((Bool.and_eq_true _ _).mp digit).2))
  omega

theorem ascii_of_isUnreserved (unreserved : isUnreserved char = true) : char.toNat < 0x80 := by
  rcases (Bool.or_eq_true _ _).mp unreserved with alphanumeric | mark
  · exact ascii_of_isAlphanum alphanumeric
  · have marks : "-_.!~*'()".toList.all (·.toNat < 0x80) = true := by decide
    exact of_decide_eq_true (List.all_eq_true.mp marks char (List.contains_iff_mem.mp mark))

theorem utf8EncodeChar_ascii (ascii : char.toNat < 0x80) :
    String.utf8EncodeChar char = [UInt8.ofNat char.toNat] := by
  rw [← utf8Encode_one ascii, Char.ofNat_toNat]

theorem beyond_of_mem_map {values : List Nat} (each : ∀ n ∈ values, 0x80 ≤ n ∧ n < 0x100)
    (member : octet ∈ values.map UInt8.ofNat) : 0x80 ≤ octet.toNat := by
  rcases List.mem_map.mp member with ⟨n, present, rfl⟩
  rw [toNat_octet (each n present).2]
  exact (each n present).1

theorem beyond_of_mem_utf8EncodeChar (beyond : 0x80 ≤ char.toNat)
    (member : octet ∈ String.utf8EncodeChar char) : 0x80 ≤ octet.toNat := by
  have scalar : char.toNat < 0xD800 ∨ 0xDFFF < char.toNat ∧ char.toNat < 0x110000 := char.valid
  rw [← Char.ofNat_toNat char] at member
  generalize char.toNat = v at beyond scalar member
  by_cases two : v < 0x800
  · rw [utf8Encode_two beyond two] at member
    exact beyond_of_mem_map (by simp; omega) member
  by_cases three : v < 0x10000
  · rw [utf8Encode_three (by omega) three (by omega)] at member
    exact beyond_of_mem_map (by simp; omega) member
  · rw [utf8Encode_four (by omega) (by omega)] at member
    exact beyond_of_mem_map (by simp; omega) member

theorem flatMap_encodeOctet (char : Char) :
    (String.utf8EncodeChar char).flatMap (encodeOctet (!isUnreserved ·)) = encodeChar char := by
  unfold encodeChar
  by_cases ascii : char.toNat < 0x80
  · have octet : (UInt8.ofNat char.toNat).toNat = char.toNat := toNat_octet (by omega)
    rw [utf8EncodeChar_ascii ascii, List.flatMap_singleton, List.flatMap_singleton, encodeOctet,
      octet, Char.ofNat_toNat]
    cases isUnreserved char with
    | true => exact if_neg (by simpa using ascii)
    | false => exact if_pos (.inr rfl)
  · have beyond : 0x80 ≤ char.toNat := Nat.le_of_not_lt ascii
    rw [if_neg (mt ascii_of_isUnreserved ascii)]
    apply List.flatMap_congr
    intro octet member
    exact if_pos (.inl (beyond_of_mem_utf8EncodeChar beyond member))

theorem encodeComponent_eq_percentEncode (text : String) :
    encodeComponent text = percentEncode (!isUnreserved ·) text := by
  rw [encodeComponent, percentEncode, toUtf8, List.flatMap_assoc]
  simp only [flatMap_encodeOctet]

end Octets

section Alphabet

variable {chars more : List Char}

inductive Component : List Char → Prop
  | nil : Component []
  | kept {char : Char} {rest : List Char} :
      char.isAlphanum = true ∨ char ∈ "-_.!~*'()".toList → Component rest → Component (char :: rest)
  | triplet {high low : Char} {rest : List Char} :
      high ∈ "0123456789ABCDEF".toList → low ∈ "0123456789ABCDEF".toList → Component rest →
      Component ('%' :: high :: low :: rest)

theorem Component.append (first : Component chars) (second : Component more) :
    Component (chars ++ more) := by
  induction first with
  | nil => exact second
  | kept own _ ih => exact .kept own ih
  | triplet high low _ ih => exact .triplet high low ih

theorem Component.flatMap {α : Type} {f : α → List Char} (each : ∀ a, Component (f a))
    (items : List α) : Component (items.flatMap f) := by
  induction items with
  | nil => exact .nil
  | cons head rest ih =>
    rw [List.flatMap_cons]
    exact (each head).append ih

theorem upperHexDigit_mem {value : Nat} (bound : value < 16) :
    upperHexDigit value ∈ "0123456789ABCDEF".toList := by
  have each : ∀ digit : Fin 16, upperHexDigit digit.val ∈ "0123456789ABCDEF".toList := by decide
  exact each ⟨value, bound⟩

theorem component_percentOctet (octet : UInt8) : Component (percentOctet octet) := by
  have size : octet.toNat < 256 := octet.toNat_lt
  exact .triplet (upperHexDigit_mem (by omega)) (upperHexDigit_mem (by omega)) .nil

theorem component_encodeChar (char : Char) : Component (encodeChar char) := by
  unfold encodeChar
  split
  · rename_i unreserved
    rcases (Bool.or_eq_true _ _).mp unreserved with alphanumeric | mark
    · exact .kept (.inl alphanumeric) .nil
    · exact .kept (.inr (List.contains_iff_mem.mp mark)) .nil
  · exact .flatMap component_percentOctet _

theorem component_encodeComponent (text : String) : Component (encodeComponent text).toList := by
  rw [encodeComponent, String.toList_ofList]
  exact .flatMap component_encodeChar _

theorem separators_disjoint (text : String) :
    "/?#&=,;+ ".toList.Disjoint (encodeComponent text).toList := by
  have marks : "/?#&=,;+ ".toList.all (fun mark => !isUnreserved mark && mark != '%') = true := by
    decide
  intro mark separator
  have apart := List.all_eq_true.mp marks mark separator
  rw [Bool.and_eq_true, Bool.not_eq_true', bne_iff_ne] at apart
  exact not_mem_encodeComponent apart.1 apart.2 text

end Alphabet

theorem encodeComponent_append (text more : String) :
    encodeComponent (text ++ more) = encodeComponent text ++ encodeComponent more := by
  simp only [encodeComponent, String.toList_append, List.flatMap_append, String.ofList_append]

/-- A component is encoded octet by octet, to letters, digits, nine marks and triplets. No separator
is left, and decoding the triplets and then the octets gives the component back. So different
components are encoded differently, and one behind another as each by itself. -/
theorem component_encoding_sound :
    (∀ text, encodeComponent text = percentEncode (!isUnreserved ·) text ∧
      Component (encodeComponent text).toList ∧
      "/?#&=,;+ ".toList.Disjoint (encodeComponent text).toList ∧
      decodeComponent? (encodeComponent text) = some text) ∧
    Function.Injective encodeComponent ∧
    ∀ text more, encodeComponent (text ++ more) = encodeComponent text ++ encodeComponent more := by
  refine ⟨fun text => ?_, encodeComponent_injective, encodeComponent_append⟩
  exact ⟨encodeComponent_eq_percentEncode text, component_encodeComponent text,
    separators_disjoint text, decodeComponent?_encodeComponent text⟩

end ODataRequest.Text
