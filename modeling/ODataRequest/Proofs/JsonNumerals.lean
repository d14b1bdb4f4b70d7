import ODataRequest.Json.Number
import ODataRequest.Proofs.Numerals
namespace ODataRequest

namespace JsonNumber

def sign (negative : Bool) : List Char := if negative then ['-'] else []

theorem takeDigits_eq_nil_iff {digits : List Char} {value final : Nat}
    (fits : value < 2 ^ 64) : takeDigits value digits = (final, []) ↔
      final = Nat.ofDigitChars 10 digits value ∧ final < 2 ^ 64 := by
  induction digits generalizing value with
  | nil =>
    rw [takeDigits, Prod.mk.injEq, Nat.ofDigitChars_nil]
    constructor
    · rintro ⟨rfl, _⟩
      exact ⟨rfl, fits⟩
    · rintro ⟨rfl, _⟩
      exact ⟨rfl, rfl⟩
  | cons digit rest ih =>
    have next : Nat.ofDigitChars 10 (digit :: rest) value =
        Nat.ofDigitChars 10 rest (value * 10 + digitValue digit) := by
      rw [Nat.ofDigitChars_cons, Nat.mul_comm 10 value]
      rfl
    rw [takeDigits, next, Nat.pow_eq]
    by_cases below : value * 10 + digitValue digit < 2 ^ 64
    · rw [if_pos below]
      exact ih below
    · rw [if_neg below, Nat.ofDigitChars_eq_ofDigitChars_zero]
      have grown : value * 10 + digitValue digit ≤
          10 ^ rest.length * (value * 10 + digitValue digit) :=
        Nat.le_mul_of_pos_left _ (Nat.pow_pos (by decide))
      constructor
      · intro taken
        cases (Prod.mk.inj taken).2
      · rintro ⟨rfl, small⟩
        omega

/-- The sign, the whole digits, the fraction and the exponent are split off one after another. -/
def splitSign : List Char → Bool × List Char
  | '-' :: rest => (true, rest)
  | rest => (false, rest)

def soundWhole : List Char → Bool
  | [] => false
  | '0' :: _ :: _ => false
  | _ => true

def splitFraction : List Char → Option (List Char) × List Char
  | '.' :: rest => let (digits, rest) := spanDigits rest; (some digits, rest)
  | rest => (none, rest)

def splitExponent : List Char → Option (Bool × List Char) × List Char
  | mark :: rest =>
    if mark = 'e' ∨ mark = 'E' then
      let (negative, rest) := match rest with
        | '-' :: rest => (true, rest)
        | '+' :: rest => (false, rest)
        | rest => (false, rest)
      let (digits, rest) := spanDigits rest
      (some (negative, digits), rest)
    else (none, mark :: rest)
  | [] => (none, [])

theorem lexeme?_eq (chars : List Char) : lexeme? chars =
    let signed := splitSign chars
    let whole := spanDigits signed.2
    let fraction := splitFraction whole.2
    let exponent := splitExponent fraction.2
    if soundWhole whole.1 && fraction.1.all (fun digits => !digits.isEmpty) &&
        exponent.1.all (fun e => !e.2.isEmpty) && exponent.2.isEmpty then
      some ⟨signed.1, whole.1, fraction.1, exponent.1⟩
    else none := rfl

theorem splitSign_join (chars : List Char) :
    sign (splitSign chars).1 ++ (splitSign chars).2 = chars := by
  unfold splitSign
  split <;> rfl

theorem spanDigits_eq (chars : List Char) :
    spanDigits chars = (chars.takeWhile Char.isDigit, chars.dropWhile Char.isDigit) :=
  List.span_eq_takeWhile_dropWhile ..

theorem isDigit_of_mem_spanDigits {chars : List Char} {char : Char}
    (member : char ∈ (spanDigits chars).1) : char.isDigit = true := by
  rw [spanDigits_eq] at member
  exact List.all_eq_true.mp List.all_takeWhile char member

theorem spanDigits_join (chars : List Char) :
    (spanDigits chars).1 ++ (spanDigits chars).2 = chars := by
  rw [spanDigits_eq]
  exact List.takeWhile_append_dropWhile

theorem spanDigits_digits {digits : List Char} (each : ∀ char ∈ digits, char.isDigit = true) :
    spanDigits digits = (digits, []) := by
  have dropped : (digits ++ []).dropWhile Char.isDigit = [].dropWhile Char.isDigit :=
    List.dropWhile_append_of_pos each
  have joined : digits.takeWhile Char.isDigit ++ digits.dropWhile Char.isDigit = digits :=
    List.takeWhile_append_dropWhile
  rw [List.append_nil, List.dropWhile_nil] at dropped
  rw [dropped, List.append_nil] at joined
  rw [spanDigits_eq, joined, dropped]

theorem splitFraction_none {chars : List Char} (whole : (splitFraction chars).1 = none) :
    (splitFraction chars).2 = chars := by
  unfold splitFraction at whole ⊢
  split
  · cases whole
  · rfl

theorem splitExponent_none {chars : List Char} (plain : (splitExponent chars).1 = none) :
    (splitExponent chars).2 = chars := by
  unfold splitExponent at plain ⊢
  split
  · split
    · rename_i marked
      simp [marked] at plain
    · rfl
  · rfl

theorem soundWhole_iff {whole : List Char} : soundWhole whole = true ↔ PlainDigits whole := by
  match whole with
  | [] => simp [soundWhole, PlainDigits]
  | [digit] => simp [soundWhole, PlainDigits]
  | first :: second :: rest =>
    by_cases zero : first = '0'
    · simp [soundWhole, PlainDigits, zero]
    · simp [soundWhole, PlainDigits, zero]

theorem lexeme?_digits (negative : Bool) {digits : List Char}
    (each : ∀ char ∈ digits, char.isDigit = true) : lexeme? (sign negative ++ digits) =
      if soundWhole digits then some ⟨negative, digits, none, none⟩ else none := by
  have signed : splitSign (sign negative ++ digits) = (negative, digits) := by
    cases negative with
    | true => rfl
    | false =>
      change splitSign digits = (false, digits)
      unfold splitSign
      split
      · cases each '-' List.mem_cons_self
      · rfl
  rw [lexeme?_eq, signed]
  simp only [spanDigits_digits each, splitFraction, splitExponent, Option.all_none,
    List.isEmpty_nil, Bool.and_true]

theorem lexeme?_plus (digits : List Char) : lexeme? ('+' :: digits) = none := by
  have signed : splitSign ('+' :: digits) = (false, '+' :: digits) := rfl
  have unfilled : spanDigits ('+' :: digits) = ([], '+' :: digits) := spanDigits_eq _
  rw [lexeme?_eq, signed]
  dsimp only
  rw [unfilled]
  exact if_neg (by simp [soundWhole])

theorem lexeme?_whole_iff {chars : List Char} {negative : Bool} {whole : List Char} :
    lexeme? chars = some ⟨negative, whole, none, none⟩ ↔
      chars = sign negative ++ whole ∧ (∀ char ∈ whole, char.isDigit = true) ∧
        PlainDigits whole := by
  constructor
  · intro read
    rw [lexeme?_eq] at read
    dsimp only at read
    split at read
    · rename_i sound
      simp only [Option.some.injEq, Lexeme.mk.injEq] at read
      rcases read with ⟨rfl, rfl, integer, plain⟩
      simp only [Bool.and_eq_true] at sound
      have ended := List.isEmpty_iff.mp sound.2
      rw [splitExponent_none plain, splitFraction_none integer] at ended
      have digits := spanDigits_join (splitSign chars).2
      rw [ended, List.append_nil] at digits
      refine ⟨?_, fun _ => isDigit_of_mem_spanDigits, soundWhole_iff.mp sound.1.1.1⟩
      rw [digits, splitSign_join]
    · cases read
  · rintro ⟨rfl, each, plain⟩
    rw [lexeme?_digits negative each, if_pos (soundWhole_iff.mpr plain)]

theorem ofLexeme?_integer {lexeme : Lexeme} {i : Int}
    (read : ofLexeme? lexeme = some (.integer i)) :
    lexeme.fraction = none ∧ lexeme.exponent = none ∧ ∃ value,
      takeDigits 0 lexeme.whole = (value, []) ∧ ofInteger lexeme.negative value = .integer i := by
  unfold ofLexeme? at read
  generalize taken : takeDigits 0 lexeme.whole = digits at read
  rcases digits with ⟨value, overflow⟩
  dsimp only at read
  split at read
  · rename_i whole plain
    exact ⟨whole, plain, value, rfl, Option.some.inj read⟩
  -- Everything else becomes a double.
  · exfalso
    split at read
    · rcases Option.map_eq_some_iff.mp read with ⟨x, _, same⟩
      cases same
    · split at read
      · rcases Option.map_eq_some_iff.mp read with ⟨x, _, same⟩
        cases same
      · split at read
        · cases read
        · cases read

theorem ofInteger_eq_integer {negative : Bool} {value : Nat} {i : Int} :
    ofInteger negative value = .integer i ↔
      i = (if negative then -(value : Int) else value) ∧
        (negative → 0 < value ∧ value ≤ 2 ^ 63) := by
  unfold ofInteger
  cases negative with
  | true =>
    simp only [if_true, Nat.pow_eq, forall_const]
    split
    · rename_i fits
      rw [integer.injEq, eq_comm]
      exact ⟨fun same => ⟨same, fits⟩, And.left⟩
    · rename_i unfit
      exact ⟨nofun, fun fits => absurd fits.2 unfit⟩
  | false => simp [eq_comm]

theorem ofLexeme?_digits {negative : Bool} {digits : List Char}
    (fits : Nat.ofDigitChars 10 digits 0 < 2 ^ 64) :
    ofLexeme? ⟨negative, digits, none, none⟩ =
      some (ofInteger negative (Nat.ofDigitChars 10 digits 0)) := by
  have taken : takeDigits 0 digits = (Nat.ofDigitChars 10 digits 0, []) :=
    (takeDigits_eq_nil_iff (by decide)).mpr ⟨rfl, fits⟩
  simp only [ofLexeme?, taken]

theorem signedNumeral_eq (i : Int) :
    (signedNumeral i).toList = sign (decide (i < 0)) ++ Nat.toDigits 10 i.natAbs := by
  rw [toList_signedNumeral]
  split
  · rename_i negative
    rw [decide_eq_true negative]
    rfl
  · rename_i positive
    rw [decide_eq_false positive]
    rfl

theorem signedNumeral_of_sign {negative : Bool} {value : Nat}
    (other : negative = true → value ≠ 0) :
    (signedNumeral (if negative then -(value : Int) else value)).toList =
      sign negative ++ Nat.toDigits 10 value := by
  have parts : decide ((if negative then -(value : Int) else value) < 0) = negative ∧
      (if negative then -(value : Int) else value).natAbs = value := by
    cases negative with
    | true =>
      have other := other rfl
      rw [if_pos rfl, decide_eq_true_iff]
      omega
    | false =>
      rw [if_neg Bool.false_ne_true, decide_eq_false_iff_not]
      omega
  rw [signedNumeral_eq, parts.1, parts.2]

/-- The texts that are read as integers are the numerals of the integers of 64 bits, signed or
not. -/
theorem ofChars?_integer_iff {chars : List Char} {i : Int} :
    ofChars? chars = some (.integer i) ↔
      chars = (signedNumeral i).toList ∧ -2 ^ 63 ≤ i ∧ i < 2 ^ 64 := by
  constructor
  · intro read
    rcases Option.bind_eq_some_iff.mp read with ⟨⟨negative, whole, fraction, exponent⟩, split, made⟩
    rcases ofLexeme?_integer made with ⟨rfl, rfl, value, taken, made⟩
    rcases lexeme?_whole_iff.mp split with ⟨rfl, each, plain⟩
    rcases (takeDigits_eq_nil_iff (by decide)).mp taken with ⟨same, small⟩
    have digits : Nat.toDigits 10 value = whole := same ▸ toDigits_ofDigitChars each plain
    rcases ofInteger_eq_integer.mp made with ⟨rfl, bound⟩
    refine ⟨?_, ?_⟩
    · rw [signedNumeral_of_sign fun negative => Nat.pos_iff_ne_zero.mp (bound negative).1, digits]
    · split
      · rename_i negative
        have bound := bound negative
        omega
      · omega
  · rintro ⟨rfl, low, high⟩
    have size : Nat.ofDigitChars 10 (Nat.toDigits 10 i.natAbs) 0 = i.natAbs :=
      Nat.ofDigitChars_ten_toDigits
    have fits : Nat.ofDigitChars 10 (Nat.toDigits 10 i.natAbs) 0 < 2 ^ 64 := by
      rw [size]
      omega
    have made : ofInteger (decide (i < 0)) i.natAbs = .integer i := by
      simp only [ofInteger_eq_integer, decide_eq_true_iff]
      split <;> omega
    rw [ofChars?, signedNumeral_eq, lexeme?_whole_iff.mpr
      ⟨rfl, fun _ => isDigit_of_mem_toDigits, plainDigits_toDigits _⟩, Option.bind_some,
      ofLexeme?_digits fits, size, made]

end JsonNumber
end ODataRequest
