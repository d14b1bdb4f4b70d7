import ODataRequest.Proofs.PercentDecoding
namespace ODataRequest.Text

/-!
What a decoder reads together. It splits octets into runs, each the octets of one character or a
gap that no character fills, and loses none of them.
-/

section Encoding

variable {v : Nat}

theorem toNat_ofNat (scalar : v.isValidChar) : (Char.ofNat v).val.toNat = v := by
  rw [Char.ofNat, dif_pos scalar]
  rfl

theorem utf8Encode_one (small : v < 0x80) :
    String.utf8EncodeChar (Char.ofNat v) = [UInt8.ofNat v] := by
  unfold String.utf8EncodeChar
  dsimp only
  rw [toNat_ofNat (.inl (by omega)), if_pos (by omega)]

theorem utf8Encode_two (low : 0x80 ≤ v) (high : v < 0x800) :
    String.utf8EncodeChar (Char.ofNat v) = [v / 64 + 192, v % 64 + 128].map UInt8.ofNat := by
  have first : v / 64 % 32 = v / 64 := by omega
  unfold String.utf8EncodeChar
  dsimp only
  rw [toNat_ofNat (.inl (by omega)), if_neg (by omega), if_pos (by omega), first]
  rfl

theorem utf8Encode_three (low : 0x800 ≤ v) (high : v < 0x10000)
    (scalar : v < 0xD800 ∨ 0xDFFF < v) :
    String.utf8EncodeChar (Char.ofNat v) =
      [v / 4096 + 224, v / 64 % 64 + 128, v % 64 + 128].map UInt8.ofNat := by
  have first : v / 4096 % 16 = v / 4096 := by omega
  unfold String.utf8EncodeChar
  dsimp only
  rw [toNat_ofNat (scalar.imp id fun above => ⟨above, by omega⟩), if_neg (by omega),
    if_neg (by omega), if_pos (by omega), first]
  rfl

theorem utf8Encode_four (low : 0x10000 ≤ v) (high : v < 0x110000) :
    String.utf8EncodeChar (Char.ofNat v) =
      [v / 262144 + 240, v / 4096 % 64 + 128, v / 64 % 64 + 128, v % 64 + 128].map
        UInt8.ofNat := by
  have first : v / 262144 % 8 = v / 262144 := by omega
  unfold String.utf8EncodeChar
  dsimp only
  rw [toNat_ofNat (.inr ⟨by omega, high⟩), if_neg (by omega), if_neg (by omega),
    if_neg (by omega), first]
  rfl

end Encoding

/-- What has been read of a character, for each state that a decoder can be in. -/
inductive Begun : PartialChar → List Nat → Prop
  | two {bits : Nat} (low : 2 ≤ bits) (high : bits < 0x20) :
    Begun ⟨1, 0x80, 0xBF, bits⟩ [bits + 192]
  | three {least greatest bits : Nat} (tails : 0x80 ≤ least ∧ greatest ≤ 0xBF)
    (high : bits < 0x10) (shortest : bits = 0 → 0xA0 ≤ least)
    (surrogates : bits = 0xD → greatest ≤ 0x9F) :
    Begun ⟨2, least, greatest, bits⟩ [bits + 224]
  | threeMiddle {bits : Nat} (low : 0x20 ≤ bits) (high : bits < 0x400)
    (scalar : bits < 0x360 ∨ 0x380 ≤ bits) :
    Begun ⟨1, 0x80, 0xBF, bits⟩ [bits / 64 + 224, bits % 64 + 128]
  | four {least greatest bits : Nat} (tails : 0x80 ≤ least ∧ greatest ≤ 0xBF)
    (high : bits ≤ 4) (shortest : bits = 0 → 0x90 ≤ least) (last : bits = 4 → greatest ≤ 0x8F) :
    Begun ⟨3, least, greatest, bits⟩ [bits + 240]
  | fourSecond {bits : Nat} (low : 0x10 ≤ bits) (high : bits < 0x110) :
    Begun ⟨2, 0x80, 0xBF, bits⟩ [bits / 64 + 240, bits % 64 + 128]
  | fourThird {bits : Nat} (low : 0x400 ≤ bits) (high : bits < 0x4400) :
    Begun ⟨1, 0x80, 0xBF, bits⟩ [bits / 4096 + 240, bits / 64 % 64 + 128, bits % 64 + 128]

def Utf8Step.Follows (read : List Nat) : Utf8Step → Prop
  | .complete char => String.utf8EncodeChar char = read.map UInt8.ofNat
  | .pending begun => Begun begun read
  | .malformed => True

theorem Begun.length_le {begun : PartialChar} {read : List Nat} (held : Begun begun read) :
    1 ≤ read.length ∧ read.length ≤ 3 := by
  cases held <;> simp

theorem firstOctet_follows (octet : Nat) : (firstOctet octet).Follows [octet] := by
  unfold firstOctet
  split
  · rename_i small
    exact utf8Encode_one small
  split
  · trivial
  split
  · have begun : Begun ⟨1, 0x80, 0xBF, octet - 0xC0⟩ _ := .two (by omega) (by omega)
    rwa [Nat.sub_add_cancel (by omega)] at begun
  split
  · subst octet
    exact @Begun.three _ _ 0 (by omega) (by omega) (by omega) (by omega)
  split
  · subst octet
    exact @Begun.three _ _ 0xD (by omega) (by omega) (by omega) (by omega)
  split
  · have begun : Begun ⟨2, 0x80, 0xBF, octet - 0xE0⟩ _ :=
      .three (by omega) (by omega) (by omega) (by omega)
    rwa [Nat.sub_add_cancel (by omega)] at begun
  split
  · subst octet
    exact @Begun.four _ _ 0 (by omega) (by omega) (by omega) (by omega)
  split
  · have begun : Begun ⟨3, 0x80, 0xBF, octet - 0xF0⟩ _ :=
      .four (by omega) (by omega) (by omega) (by omega)
    rwa [Nat.sub_add_cancel (by omega)] at begun
  split
  · subst octet
    exact @Begun.four _ _ 4 (by omega) (by omega) (by omega) (by omega)
  · trivial

theorem Begun.next {begun : PartialChar} {read : List Nat} (held : Begun begun read)
    (octet : Nat) : (nextOctet begun octet).Follows (read ++ [octet]) := by
  by_cases range : begun.low ≤ octet ∧ octet ≤ begun.high
  case neg =>
    rw [nextOctet, if_neg range]
    trivial
  rw [nextOctet, if_pos range]
  obtain ⟨tail, rfl⟩ : ∃ tail, octet = tail + 128 := by
    cases held <;> exact ⟨octet - 128, by dsimp only at range; omega⟩
  simp only [Nat.add_sub_cancel]
  cases held with
  | @two bits low high =>
    dsimp only at range
    have first : (bits * 64 + tail) / 64 = bits := by omega
    have last : (bits * 64 + tail) % 64 = tail := by omega
    have encoded := utf8Encode_two (v := bits * 64 + tail) (by omega) (by omega)
    rwa [first, last] at encoded
  | @three least greatest bits tails high shortest surrogates =>
    dsimp only at range
    have first : (bits * 64 + tail) / 64 = bits := by omega
    have last : (bits * 64 + tail) % 64 = tail := by omega
    have begun : Begun ⟨1, 0x80, 0xBF, bits * 64 + tail⟩ _ :=
      .threeMiddle (by omega) (by omega) (by omega)
    rwa [first, last] at begun
  | @threeMiddle bits low high scalar =>
    dsimp only at range
    have first : (bits * 64 + tail) / 4096 = bits / 64 := by omega
    have middle : (bits * 64 + tail) / 64 = bits := by omega
    have last : (bits * 64 + tail) % 64 = tail := by omega
    have encoded := utf8Encode_three (v := bits * 64 + tail) (by omega) (by omega) (by omega)
    rwa [first, middle, last] at encoded
  | @four least greatest bits tails high shortest last =>
    dsimp only at range
    have first : (bits * 64 + tail) / 64 = bits := by omega
    have last : (bits * 64 + tail) % 64 = tail := by omega
    have begun : Begun ⟨2, 0x80, 0xBF, bits * 64 + tail⟩ _ := .fourSecond (by omega) (by omega)
    rwa [first, last] at begun
  | @fourSecond bits low high =>
    dsimp only at range
    have first : (bits * 64 + tail) / 4096 = bits / 64 := by omega
    have middle : (bits * 64 + tail) / 64 = bits := by omega
    have last : (bits * 64 + tail) % 64 = tail := by omega
    have begun : Begun ⟨1, 0x80, 0xBF, bits * 64 + tail⟩ _ := .fourThird (by omega) (by omega)
    rwa [first, middle, last] at begun
  | @fourThird bits low high =>
    dsimp only at range
    have first : (bits * 64 + tail) / 262144 = bits / 4096 := by omega
    have second : (bits * 64 + tail) / 4096 = bits / 64 := by omega
    have third : (bits * 64 + tail) / 64 = bits := by omega
    have last : (bits * 64 + tail) % 64 = tail := by omega
    have encoded := utf8Encode_four (v := bits * 64 + tail) (by omega) (by omega)
    rwa [first, second, third, last] at encoded

/-- Octets that are read together: those of a character, or of a gap. -/
structure Run where
  octets : List UInt8
  char? : Option Char

namespace Run

def mark (run : Run) : Char := run.char?.getD '\uFFFD'

/-- A gap ends before the octet that would complete a character, so it has at most three. -/
def Sound (run : Run) : Prop :=
  match run.char? with
  | some char => String.utf8EncodeChar char = run.octets
  | none => 1 ≤ run.octets.length ∧ run.octets.length ≤ 3

def gain (run : Run) : Nat :=
  match run.char? with
  | some _ => 0
  | none => 3 - run.octets.length

end Run

def Parted (octets : List UInt8) (chars : List (Option Char)) : Prop :=
  ∃ runs : List Run, runs.flatMap Run.octets = octets ∧ runs.map Run.char? = chars ∧
    ∀ run ∈ runs, run.Sound

namespace Parted

variable {octets : List UInt8} {chars : List (Option Char)} {read : List Nat}

theorem empty : Parted [] [] := ⟨[], rfl, rfl, by simp⟩

theorem cons (run : Run) (sound : run.Sound) (parted : Parted octets chars) :
    Parted (run.octets ++ octets) (run.char? :: chars) := by
  obtain ⟨runs, spelled, marked, others⟩ := parted
  refine ⟨run :: runs, by rw [List.flatMap_cons, spelled], by rw [List.map_cons, marked], ?_⟩
  exact List.forall_mem_cons.mpr ⟨sound, others⟩

theorem cons_char {char : Char} (encoded : String.utf8EncodeChar char = read.map UInt8.ofNat)
    (parted : Parted octets chars) :
    Parted (read.map UInt8.ofNat ++ octets) (some char :: chars) :=
  parted.cons ⟨read.map UInt8.ofNat, some char⟩ encoded

theorem cons_gap (width : 1 ≤ read.length ∧ read.length ≤ 3) (parted : Parted octets chars) :
    Parted (read.map UInt8.ofNat ++ octets) (none :: chars) :=
  parted.cons ⟨read.map UInt8.ofNat, none⟩ (by simpa [Run.Sound] using width)

end Parted

theorem parted_decodeFrom (octets : List UInt8) :
    Parted octets (decodeFrom none octets) ∧
      ∀ begun read, Begun begun read →
        Parted (read.map UInt8.ofNat ++ octets) (decodeFrom (some begun) octets) := by
  -- Both at once: an octet can end a character, go on with one, or begin another.
  induction octets with
  | nil =>
    refine ⟨.empty, fun begun read held => ?_⟩
    exact .cons_gap held.length_le .empty
  | cons octet rest ih =>
    obtain ⟨outside, inside⟩ := ih
    have single : [octet.toNat].map UInt8.ofNat ++ rest = octet :: rest := by simp
    have fresh : Parted (octet :: rest) (decodeFrom none (octet :: rest)) := by
      have follows := firstOctet_follows octet.toNat
      rw [decodeFrom, ← single]
      cases step : firstOctet octet.toNat with
      | complete char =>
        rw [step] at follows
        exact .cons_char follows outside
      | pending begun =>
        rw [step] at follows
        exact inside begun _ follows
      | malformed => exact .cons_gap (by simp) outside
    refine ⟨fresh, fun begun read held => ?_⟩
    have follows := held.next octet.toNat
    have longer : read.map UInt8.ofNat ++ octet :: rest =
        (read ++ [octet.toNat]).map UInt8.ofNat ++ rest := by simp
    cases step : nextOctet begun octet.toNat with
    | complete char =>
      rw [step] at follows
      rw [decodeFrom, longer]
      simp only [step]
      exact .cons_char follows outside
    | pending next =>
      rw [step] at follows
      rw [decodeFrom, longer]
      simp only [step]
      exact inside next _ follows
    | malformed =>
      -- The gap ends before this octet, which is looked at again as a first one.
      have again : decodeFrom (some begun) (octet :: rest) =
          none :: decodeFrom none (octet :: rest) := by
        rw [decodeFrom, decodeFrom]
        simp only [step]
        cases firstOctet octet.toNat <;> rfl
      rw [again]
      exact .cons_gap held.length_le fresh

theorem parted_decodeUtf8 (octets : List UInt8) : Parted octets (decodeUtf8 octets) :=
  (parted_decodeFrom octets).1

end ODataRequest.Text
