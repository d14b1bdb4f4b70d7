import ODataRequest.Proofs.Literals
import ODataRequest.Proofs.Numerals
import Mathlib.Algebra.Field.Rat
import Mathlib.Data.Rat.Cast.Lemmas
import Mathlib.Tactic.NormNum
namespace ODataRequest

def PrimitiveType.bounds? : PrimitiveType → Option (Int × Int)
  | byte => some (0, 255)
  | sbyte => some (-128, 127)
  | int16 => some (-32768, 32767)
  | int32 => some (-2147483648, 2147483647)
  | int64 => some (-9223372036854775808, 9223372036854775807)
  | single | double | decimal | string | boolean => none

namespace Decimal

variable {d : Decimal} {i : Int}

def value (d : Decimal) : ℚ := d.digits * 10 ^ (-d.scale)

/-- The text of the decimal consists of digits only, but for its sign. -/
def Plain (d : Decimal) : Prop := d.digits = 0 ∨ -15 ≤ d.scale ∧ d.scale ≤ 0

theorem value_eq_iff (whole : d.scale ≤ 0) :
    d.value = i ↔ d.digits * 10 ^ (-d.scale).toNat = i := by
  have power : (10 : ℚ) ^ (-d.scale) = ((10 ^ (-d.scale).toNat : Int) : ℚ) := by
    conv_lhs => rw [← Int.toNat_of_nonneg (show 0 ≤ -d.scale by omega)]
    rw [zpow_natCast]
    norm_num
  rw [value, power]
  exact_mod_cast Iff.rfl

theorem text_of_zero (zero : d.digits = 0) : d.text = signedNumeral 0 := by
  simp only [text, zero]
  rfl

theorem text_of_scale (filled : d.digits ≠ 0) (few : -15 ≤ d.scale) (whole : d.scale ≤ 0) :
    d.text = signedNumeral (d.digits * 10 ^ (-d.scale).toNat) := by
  have power : (0 : Int) < 10 ^ (-d.scale).toNat := by positivity
  have positive : 0 < d.digits.natAbs := by omega
  have sign : d.digits * 10 ^ (-d.scale).toNat < 0 ↔ d.digits < 0 := by
    constructor
    · intro negative
      by_contra other
      have := Int.mul_nonneg (show 0 ≤ d.digits by omega) power.le
      omega
    · intro negative
      exact Int.mul_neg_of_neg_of_pos negative power
  have magnitude :
      (d.digits * 10 ^ (-d.scale).toNat).natAbs = d.digits.natAbs * 10 ^ (-d.scale).toNat := by
    rw [Int.natAbs_mul, Int.natAbs_pow]
    rfl
  have body : positional d.digits.natAbs (-d.scale) =
      numeral (d.digits.natAbs * 10 ^ (-d.scale).toNat) := by
    rw [positional, if_pos (by omega), numeral, toDigits_mul_pow positive]
  have small : ¬5 < d.scale - ((Nat.toDigits 10 d.digits.natAbs).length : Int) := by omega
  have large : ¬15 < -d.scale := by omega
  simp only [text, if_neg (show ¬d.digits.natAbs = 0 by omega), if_neg small, if_neg large, body,
    signedNumeral, sign, magnitude]

theorem text_of_plain (plain : d.Plain) (same : d.value = i) : d.text = signedNumeral i := by
  by_cases zero : d.digits = 0
  · have none : (0 : ℚ) = i := by simpa [value, zero] using same
    have : i = 0 := by exact_mod_cast none.symm
    rw [text_of_zero zero, this]
  · obtain ⟨few, whole⟩ := plain.resolve_left zero
    rw [text_of_scale zero few whole, (value_eq_iff whole).mp same]

theorem point_mem_positional (magnitude : Nat) {exponent : Int} (places : exponent < 0) :
    '.' ∈ (positional magnitude exponent).toList := by
  rw [positional, if_neg (by omega), String.toList_ofList]
  simp

theorem mark_of_not_plain (other : ¬d.Plain) :
    ∃ char ∈ d.text.toList, char.isDigit = false ∧ char ≠ '-' := by
  have filled : d.digits ≠ 0 := fun zero => other (.inl zero)
  have scale : d.scale < -15 ∨ 0 < d.scale := by
    by_contra inside
    exact other (.inr (by omega))
  have signed (body : String) {mark : Char} (present : mark ∈ body.toList) :
      mark ∈ (if d.digits < 0 then "-" ++ body else body).toList := by
    split
    · rw [String.toList_append]
      exact List.mem_append_right _ present
    · exact present
  -- Far below one and far above the digits the text has an exponent, in between a point.
  simp only [text, if_neg (show ¬d.digits.natAbs = 0 by omega)]
  by_cases small : 5 < d.scale - ((Nat.toDigits 10 d.digits.natAbs).length : Int)
  · rw [if_pos small]
    exact ⟨'E', signed _ (by simp [scientific]), by decide, by decide⟩
  · rw [if_neg small]
    by_cases large : 15 < -d.scale
    · rw [if_pos large]
      exact ⟨'e', signed _ (by simp), by decide, by decide⟩
    · rw [if_neg large]
      exact ⟨'.', signed _ (point_mem_positional _ (by omega)), by decide, by decide⟩

theorem text_eq_iff (same : d.value = i) : d.text = signedNumeral i ↔ d.Plain := by
  constructor
  · intro written
    by_contra other
    obtain ⟨char, member, noDigit, noMinus⟩ := mark_of_not_plain other
    rw [written] at member
    rcases isDigit_or_minus_of_mem_signedNumeral member with digit | minus
    · simp [digit] at noDigit
    · exact noMinus minus
  · exact fun plain => text_of_plain plain same

end Decimal

namespace Value

variable {value : Value} {i j : Int}

def isNumber : Value → Bool
  | int _ | decimal _ => true
  | _ => false

inductive Whole : Value → Int → Prop
  | int (i : Int) : Whole (.int i) i
  | decimal {d : Decimal} {i : Int} (same : d.value = i) : Whole (.decimal d) i

def Plain : Value → Prop
  | decimal d => d.Plain
  | _ => True

theorem Whole.isNumber (whole : value.Whole i) : value.isNumber = true := by
  cases whole <;> rfl

theorem Whole.unique (whole : value.Whole i) (other : value.Whole j) : i = j := by
  cases whole with
  | int => cases other with | int => rfl
  | decimal same =>
    cases other with
    | decimal same' => exact_mod_cast same.symm.trans same'

theorem Whole.display_eq_iff (whole : value.Whole i) :
    value.display = signedNumeral i ↔ value.Plain := by
  cases whole with
  | int => exact iff_of_true rfl trivial
  | decimal same => exact Decimal.text_eq_iff same

end Value

namespace Literal

variable {type : PrimitiveType} {low high : Int} {value : Value}

theorem primitive?_whole (bounded : type.bounds? = some (low, high)) (value : Value) :
    primitive? type.name value = if value.isNumber then some value.display else none := by
  cases type <;> cases bounded <;> cases value <;> rfl

theorem serialize_whole (schema : Schema) (bounded : type.bounds? = some (low, high))
    (typed : value.isTyped = true) :
    serialize schema value type.type =
      if value.isNumber then .ok value.display else .error (mismatch value type.type) := by
  have written := primitive?_whole bounded value
  rw [PrimitiveType.type, serialize_typed typed, scalar_edm, written]
  split <;> rfl

/-- Integers and decimals have their texts in messages for literals, and all other values have
none. So a literal exists exactly for the whole numbers within the bounds, and is the numeral of
the number, exactly if the value is no number at all or such a number with a plain text. -/
theorem whole_literal_iff (schema : Schema) (bounded : type.bounds? = some (low, high))
    (typed : value.isTyped = true) :
    serialize schema value type.type =
      (if value.isNumber then .ok value.display else .error (mismatch value type.type)) ∧
    ((∀ text, serialize schema value type.type = .ok text ↔
        ∃ i, value.Whole i ∧ low ≤ i ∧ i ≤ high ∧ text = signedNumeral i) ↔
      (value.isNumber = true → (∃ i, value.Whole i ∧ low ≤ i ∧ i ≤ high) ∧ value.Plain)) := by
  have written := serialize_whole schema bounded typed
  refine ⟨written, ?_⟩
  rw [written]
  by_cases number : value.isNumber = true
  · simp only [number, if_true, Except.ok.injEq, true_implies]
    constructor
    · intro exact
      obtain ⟨i, whole, least, greatest, text⟩ := (exact value.display).mp rfl
      exact ⟨⟨i, whole, least, greatest⟩, whole.display_eq_iff.mp text⟩
    · intro ⟨⟨i, whole, least, greatest⟩, plain⟩ text
      have shown := whole.display_eq_iff.mpr plain
      constructor
      · intro same
        exact ⟨i, whole, least, greatest, same ▸ shown⟩
      · intro ⟨j, whole', _, _, same⟩
        rw [shown, same, whole.unique whole']
  · simp only [number, Bool.false_eq_true, if_false, reduceCtorEq, false_iff, false_implies,
      iff_true]
    intro text ⟨i, whole, _⟩
    exact number whole.isNumber

theorem whole_literal_iff_tens :
    serialize .empty (.decimal ⟨25, -1⟩) PrimitiveType.byte.type = .ok "250" ∧
    ∀ text, serialize .empty (.decimal ⟨25, -1⟩) PrimitiveType.byte.type = .ok text ↔
      ∃ i, (Value.decimal ⟨25, -1⟩).Whole i ∧ 0 ≤ i ∧ i ≤ 255 ∧ text = signedNumeral i := by
  have tens : (⟨25, -1⟩ : Decimal).value = (250 : Int) := (Decimal.value_eq_iff (by decide)).mpr rfl
  have literal := @whole_literal_iff .byte 0 255 (.decimal ⟨25, -1⟩) .empty rfl rfl
  refine ⟨literal.1, literal.2.mpr fun _ => ⟨⟨250, .decimal tens, by decide, by decide⟩, ?_⟩⟩
  exact .inr ⟨by decide, by decide⟩

theorem serialize_fraction :
    serialize .empty (.decimal ⟨35, 1⟩) PrimitiveType.int32.type = .ok "3.5" := by
  rfl

/-- Three and a half is written as a whole number. -/
theorem fraction_as_whole :
    ¬∀ (schema : Schema) (type : PrimitiveType) (low high : Int) (value : Value),
      type.bounds? = some (low, high) → value.isTyped = true →
      ∀ text, serialize schema value type.type = .ok text ↔
        ∃ i, value.Whole i ∧ low ≤ i ∧ i ≤ high ∧ text = signedNumeral i := by
  intro exact
  have literal := exact .empty .int32 _ _ (.decimal ⟨35, 1⟩) rfl rfl "3.5"
  obtain ⟨i, _, _, _, written⟩ := literal.mp serialize_fraction
  have point : '.' ∈ (signedNumeral i).toList := by
    rw [← written]
    decide
  rcases isDigit_or_minus_of_mem_signedNumeral point with digit | minus
  · cases digit
  · cases minus

end Literal
end ODataRequest
