import ODataRequest.Text.Numeral
import Mathlib.Tactic.Positivity
import Mathlib.Tactic.Ring
namespace ODataRequest

/-!
Numerals: the digits of a number and how they are read back. Zeros before the digits change
nothing, and zeros behind them are powers of ten; without zeros before them the digits are those
of their number.
-/

theorem isDigit_of_mem_toDigits {n : Nat} {char : Char} (member : char ∈ Nat.toDigits 10 n) :
    char.isDigit = true :=
  Nat.isDigit_of_mem_toDigits (by decide) (by decide) member

theorem toList_numeral (n : Nat) : (numeral n).toList = Nat.toDigits 10 n := by
  rw [numeral, String.toList_ofList]

theorem toList_paddedNumeral (width n : Nat) :
    (paddedNumeral width n).toList =
      List.replicate (width - (Nat.toDigits 10 n).length) '0' ++ Nat.toDigits 10 n := by
  rw [paddedNumeral, String.toList_ofList]

theorem isDigit_of_mem_paddedNumeral {width n : Nat} {char : Char}
    (member : char ∈ (paddedNumeral width n).toList) : char.isDigit = true := by
  rw [toList_paddedNumeral] at member
  rcases List.mem_append.mp member with zero | digit
  · rw [List.eq_of_mem_replicate zero]
    decide
  · exact isDigit_of_mem_toDigits digit

theorem length_paddedNumeral {width n : Nat} (wide : 0 < width) (below : n < 10 ^ width) :
    (paddedNumeral width n).toList.length = width := by
  have fits : (Nat.toDigits 10 n).length ≤ width :=
    (Nat.length_toDigits_le_iff (by decide) wide).mpr below
  rw [toList_paddedNumeral, List.length_append, List.length_replicate]
  omega

theorem isDigit_or_minus_of_mem_signedNumeral {i : Int} {char : Char}
    (member : char ∈ (signedNumeral i).toList) : char.isDigit = true ∨ char = '-' := by
  rw [signedNumeral] at member
  split at member
  · rw [String.toList_append, toList_numeral] at member
    rcases List.mem_append.mp member with minus | digit
    · exact .inr (by simpa using minus)
    · exact .inl (isDigit_of_mem_toDigits digit)
  · rw [toList_numeral] at member
    exact .inl (isDigit_of_mem_toDigits member)

theorem foldlM_digits {digits : List Char} (each : ∀ char ∈ digits, char.isDigit = true)
    (start : Nat) :
    digits.foldlM (fun value digit =>
      if digit.isDigit then some (value * 10 + (digit.toNat - '0'.toNat)) else none) start =
      some (Nat.ofDigitChars 10 digits start) := by
  induction digits generalizing start with
  | nil => rfl
  | cons digit rest ih =>
    have later := ih (fun char member => each char (List.mem_cons_of_mem _ member))
    rw [List.foldlM_cons, if_pos (each digit List.mem_cons_self), Nat.ofDigitChars_cons,
      Nat.mul_comm 10 start]
    exact later _

theorem readDigits?_of_digits {digits : List Char} (filled : digits ≠ [])
    (each : ∀ char ∈ digits, char.isDigit = true) :
    readDigits? digits = some (Nat.ofDigitChars 10 digits 0) := by
  cases digits with
  | nil => exact absurd rfl filled
  | cons digit rest => exact foldlM_digits each 0

theorem digits_of_readDigits? {digits : List Char} {n : Nat} (read : readDigits? digits = some n) :
    digits ≠ [] ∧ ∀ char ∈ digits, char.isDigit = true := by
  have each {rest : List Char} {start : Nat}
      (read : rest.foldlM (fun value digit =>
        if digit.isDigit then some (value * 10 + (digit.toNat - '0'.toNat)) else none) start =
          some n) : ∀ char ∈ rest, char.isDigit = true := by
    induction rest generalizing start with
    | nil => nofun
    | cons digit rest ih =>
      rw [List.foldlM_cons] at read
      rcases Option.bind_eq_some_iff.mp read with ⟨next, taken, read⟩
      split at taken
      · rename_i isDigit
        exact List.forall_mem_cons.mpr ⟨isDigit, ih read⟩
      · cases taken
  cases digits with
  | nil => cases read
  | cons digit rest => exact ⟨List.cons_ne_nil _ _, each read⟩

theorem readDigits?_toDigits (n : Nat) : readDigits? (Nat.toDigits 10 n) = some n := by
  rw [readDigits?_of_digits Nat.toDigits_ne_nil fun _ => isDigit_of_mem_toDigits,
    Nat.ofDigitChars_ten_toDigits]

theorem readDigits?_paddedNumeral (width n : Nat) :
    readDigits? (paddedNumeral width n).toList = some n := by
  have filled : (paddedNumeral width n).toList ≠ [] := by
    simp [toList_paddedNumeral, Nat.toDigits_ne_nil]
  rw [readDigits?_of_digits filled fun _ => isDigit_of_mem_paddedNumeral, toList_paddedNumeral,
    Nat.ofDigitChars_append, Nat.ofDigitChars_replicate_zero, Nat.mul_zero,
    Nat.ofDigitChars_ten_toDigits]

theorem toDigits_mul_pow {n : Nat} (positive : 0 < n) (zeros : Nat) :
    Nat.toDigits 10 (n * 10 ^ zeros) = Nat.toDigits 10 n ++ List.replicate zeros '0' := by
  induction zeros with
  | zero => simp
  | succ zeros ih =>
    have before : 0 < n * 10 ^ zeros := by positivity
    calc
      Nat.toDigits 10 (n * 10 ^ (zeros + 1)) = Nat.toDigits 10 (10 * (n * 10 ^ zeros) + 0) := by
        rw [Nat.pow_succ]
        congr 1
        ring
      _ = Nat.toDigits 10 (n * 10 ^ zeros) ++ Nat.toDigits 10 0 :=
        (Nat.toDigits_append_toDigits (by decide) before (by decide)).symm
      _ = Nat.toDigits 10 n ++ List.replicate (zeros + 1) '0' := by
        rw [ih, Nat.toDigits_zero, List.append_assoc, ← List.replicate_succ']

theorem bounds_of_isDigit {char : Char} (digit : char.isDigit = true) :
    48 ≤ char.toNat ∧ char.toNat ≤ 57 := by
  simpa [Char.isDigit, UInt32.le_iff_toNat_le] using digit

theorem digitChar_of_isDigit {char : Char} (digit : char.isDigit = true) :
    char.toNat - '0'.toNat < 10 ∧ (char.toNat - '0'.toNat).digitChar = char := by
  have bounds := bounds_of_isDigit digit
  have table : ∀ code < 58, 48 ≤ code →
      code - '0'.toNat < 10 ∧ (code - '0'.toNat).digitChar = Char.ofNat code := by decide
  simpa using table char.toNat (Nat.lt_succ_of_le bounds.2) bounds.1

/-- Digits without leading zeros; zero is one digit. -/
def PlainDigits (digits : List Char) : Prop :=
  digits ≠ [] ∧ (digits.head? = some '0' → digits = ['0'])

theorem plainDigits_toDigits (n : Nat) : PlainDigits (Nat.toDigits 10 n) := by
  refine ⟨Nat.toDigits_ne_nil, ?_⟩
  induction n using Nat.strongRecOn with
  | ind n ih =>
    intro zero
    by_cases small : n < 10
    · rw [Nat.toDigits_of_lt_base small] at zero ⊢
      exact congrArg (fun char => [char]) (Option.some.inj zero)
    · have split := Nat.toDigits_of_base_le (b := 10) (by decide) (Nat.le_of_not_lt small)
      have head : (Nat.toDigits 10 n).head? = (Nat.toDigits 10 (n / 10)).head? := by
        rw [split, List.head?_append_of_ne_nil _ Nat.toDigits_ne_nil]
      have tenth := ih (n / 10) (by omega) (head ▸ zero)
      have value : n / 10 = 0 := by
        rw [← Nat.ofDigitChars_ten_toDigits (n := n / 10), tenth]
        rfl
      omega

theorem toDigits_ofDigitChars {digits : List Char} (each : ∀ char ∈ digits, char.isDigit = true)
    (plain : PlainDigits digits) : Nat.toDigits 10 (Nat.ofDigitChars 10 digits 0) = digits := by
  induction digits using List.reverseRecOn with
  | nil => exact absurd rfl plain.1
  | append_singleton digits last ih =>
    rcases digitChar_of_isDigit (each last (by simp)) with ⟨small, same⟩
    have single : Nat.toDigits 10 (last.toNat - '0'.toNat) = [last] := by
      rw [Nat.toDigits_of_lt_base small, same]
    rw [Nat.ofDigitChars_append, Nat.ofDigitChars_cons, Nat.ofDigitChars_nil]
    cases digits with
    | nil => simpa using single
    | cons first rest =>
      have leading : first ≠ '0' := by
        rintro rfl
        have alone := plain.2 rfl
        simp at alone
      have before := ih (fun char member => each char (List.mem_append_left _ member))
        ⟨List.cons_ne_nil _ _, fun zero => absurd (Option.some.inj zero) leading⟩
      have positive : 0 < Nat.ofDigitChars 10 (first :: rest) 0 := by
        apply Nat.pos_of_ne_zero
        intro zero
        rw [zero, Nat.toDigits_zero] at before
        exact leading (List.cons.inj before).1.symm
      rw [← Nat.toDigits_append_toDigits (by decide) positive small, before, single]

theorem toList_signedNumeral (i : Int) : (signedNumeral i).toList =
    if i < 0 then '-' :: Nat.toDigits 10 i.natAbs else Nat.toDigits 10 i.natAbs := by
  rw [signedNumeral]
  split
  · rw [String.toList_append, toList_numeral]
    rfl
  · exact toList_numeral _

theorem readInteger?_signedNumeral (i : Int) : readInteger? (signedNumeral i).toList = some i := by
  rw [toList_signedNumeral]
  split
  · rw [readInteger?, readDigits?_toDigits]
    exact congrArg some (show -(i.natAbs : Int) = i by omega)
  · have unsigned : readInteger? (Nat.toDigits 10 i.natAbs) =
        (readDigits? (Nat.toDigits 10 i.natAbs)).map fun n => (n : Int) := by
      unfold readInteger?
      split
      · rename_i same
        have digit := isDigit_of_mem_toDigits (same ▸ List.mem_cons_self)
        cases digit
      · rename_i same
        have digit := isDigit_of_mem_toDigits (same ▸ List.mem_cons_self)
        cases digit
      · rfl
    rw [unsigned, readDigits?_toDigits]
    exact congrArg some (show (i.natAbs : Int) = i by omega)

theorem signedNumeral_injective {i j : Int}
    (same : (signedNumeral i).toList = (signedNumeral j).toList) : i = j := by
  have read := readInteger?_signedNumeral i
  rw [same, readInteger?_signedNumeral] at read
  exact (Option.some.inj read).symm

end ODataRequest
