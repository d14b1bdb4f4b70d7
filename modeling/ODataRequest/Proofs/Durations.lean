import ODataRequest.Proofs.Literals
import ODataRequest.Proofs.Numerals
namespace ODataRequest

def behind? (mark : Char) : List Char → Option (List Char)
  | [] => none
  | char :: rest => if char = mark then some rest else none

def readField? (mark : Char) (chars : List Char) : Option (Nat × List Char) := do
  let number ← readDigits? (chars.takeWhile Char.isDigit)
  let rest ← behind? mark (chars.dropWhile Char.isDigit)
  some (number, rest)

section Fields

variable {digits rest : List Char} {mark : Char} {n : Nat}

@[simp] theorem behind?_cons (mark : Char) (rest : List Char) :
    behind? mark (mark :: rest) = some rest :=
  if_pos rfl

theorem foldlM_behind? (marks rest : List Char) :
    marks.foldlM (fun chars mark => behind? mark chars) (marks ++ rest) = some rest := by
  induction marks with
  | nil => rfl
  | cons mark marks ih => simp [ih]

theorem takeWhile_field (each : ∀ char ∈ digits, char.isDigit = true)
    (stop : mark.isDigit = false) (rest : List Char) :
    (digits ++ mark :: rest).takeWhile Char.isDigit = digits := by
  simp [List.takeWhile_append_of_pos each, stop]

theorem dropWhile_field (each : ∀ char ∈ digits, char.isDigit = true)
    (stop : mark.isDigit = false) (rest : List Char) :
    (digits ++ mark :: rest).dropWhile Char.isDigit = mark :: rest := by
  simp [List.dropWhile_append_of_pos each, stop]

theorem readField?_append (read : readDigits? digits = some n)
    (each : ∀ char ∈ digits, char.isDigit = true) (stop : mark.isDigit = false)
    (rest : List Char) : readField? mark (digits ++ mark :: rest) = some (n, rest) := by
  rw [readField?, takeWhile_field each stop, dropWhile_field each stop, read]
  simp

theorem readField?_other {other : Char} (each : ∀ char ∈ digits, char.isDigit = true)
    (stop : other.isDigit = false) (differs : other ≠ mark) (rest : List Char) :
    readField? mark (digits ++ other :: rest) = none := by
  rw [readField?, dropWhile_field each stop]
  simp [behind?, differs]

theorem readField?_numeral (n : Nat) (stop : mark.isDigit = false) (rest : List Char) :
    readField? mark ((numeral n).toList ++ mark :: rest) = some (n, rest) := by
  rw [toList_numeral]
  exact readField?_append (readDigits?_toDigits n) (fun _ => isDigit_of_mem_toDigits) stop rest

end Fields

namespace Duration

/-- Decimal places of a second, nine at most, as nanoseconds. -/
def readPlaces? (chars : List Char) : Option (Nat × List Char) := do
  let (number, rest) ← readField? 'S' chars
  let places := (chars.takeWhile Char.isDigit).length
  if places ≤ 9 then some (number * 10 ^ (9 - places), rest) else none

def readSeconds? (chars : List Char) : Option (Nat × Nat × List Char) :=
  match readField? '.' chars with
  | some (seconds, rest) => (readPlaces? rest).map fun (places, rest) => (seconds, places, rest)
  | none => (readField? 'S' chars).map fun (seconds, rest) => (seconds, 0, rest)

/-- Days, hours of a day, minutes of an hour and seconds of a minute, in nanoseconds. -/
def readMagnitude? (chars : List Char) : Option (Nat × List Char) := do
  let chars ← behind? 'P' chars
  let (days, chars) ← readField? 'D' chars
  let chars ← behind? 'T' chars
  let (hours, chars) ← readField? 'H' chars
  let (minutes, chars) ← readField? 'M' chars
  let (seconds, places, chars) ← readSeconds? chars
  if hours < 24 ∧ minutes < 60 ∧ seconds < 60 then
    let whole := ((days * 24 + hours) * 60 + minutes) * 60 + seconds
    some (whole * 1000000000 + places, chars)
  else none

def readSigned? (chars : List Char) : Option Duration :=
  match chars with
  | '-' :: chars =>
    match readMagnitude? chars with
    | some (magnitude, ['\'']) => some ⟨-magnitude⟩
    | _ => none
  | chars =>
    match readMagnitude? chars with
    | some (magnitude, ['\'']) => some ⟨magnitude⟩
    | _ => none

def ofLiteral? (text : String) : Option Duration :=
  ("duration'".toList.foldlM (fun chars mark => behind? mark chars) text.toList).bind readSigned?

def literal (d : Duration) : String := "duration'" ++ d.literalText ++ "'"

def wholeMillis (d : Duration) : Duration := ⟨d.nanoseconds.tdiv 1000000 * 1000000⟩

def placesText (millis : Nat) : String :=
  if millis = 0 then "" else "." ++ paddedNumeral 3 millis

theorem readPlaces?_millis {millis : Nat} (below : millis < 1000) (rest : List Char) :
    readPlaces? ((paddedNumeral 3 millis).toList ++ 'S' :: rest) =
      some (millis * 1000000, rest) := by
  have each : ∀ char ∈ (paddedNumeral 3 millis).toList, char.isDigit = true :=
    fun _ => isDigit_of_mem_paddedNumeral
  have field := readField?_append (readDigits?_paddedNumeral 3 millis) each
    (show 'S'.isDigit = false by decide) rest
  have three := length_paddedNumeral (show 0 < 3 by decide) below
  rw [readPlaces?, field, takeWhile_field each (by decide), three]
  rfl

theorem readSeconds?_written (seconds : Nat) {millis : Nat} (below : millis < 1000)
    (rest : List Char) :
    readSeconds? ((numeral seconds).toList ++ ((placesText millis).toList ++ 'S' :: rest)) =
      some (seconds, millis * 1000000, rest) := by
  have each : ∀ char ∈ (numeral seconds).toList, char.isDigit = true := by
    intro char member
    rw [toList_numeral] at member
    exact isDigit_of_mem_toDigits member
  by_cases zero : millis = 0
  · have bare : (placesText millis).toList = [] := by simp [placesText, zero]
    rw [bare, List.nil_append, readSeconds?,
      readField?_other each (by decide) (by decide), readField?_numeral _ (by decide), zero]
    rfl
  · have pointed : (placesText millis).toList = '.' :: (paddedNumeral 3 millis).toList := by
      simp [placesText, zero]
    rw [pointed, List.cons_append, readSeconds?, readField?_numeral _ (by decide)]
    simp [readPlaces?_millis below]

variable {d d' : Duration}

/-- Whole milliseconds of the magnitude, those of a second only. -/
def millis (d : Duration) : Nat := d.nanoseconds.natAbs / 1000000 % 1000

def magnitudeChars (d : Duration) (rest : List Char) : List Char :=
  'P' :: ((numeral (d.seconds / 86400)).toList ++ 'D' :: 'T' ::
    ((numeral (d.seconds / 3600 % 24)).toList ++ 'H' ::
      ((numeral (d.seconds / 60 % 60)).toList ++ 'M' ::
        ((numeral (d.seconds % 60)).toList ++ ((placesText d.millis).toList ++ 'S' :: rest)))))

theorem toList_literal (d : Duration) :
    d.literal.toList = "duration'".toList ++ (d.signText.toList ++ d.magnitudeChars ['\'']) := by
  have written : d.literalText = d.signText ++ "P" ++ numeral (d.seconds / 86400) ++ "DT" ++
      numeral (d.seconds / 3600 % 24) ++ "H" ++ numeral (d.seconds / 60 % 60) ++ "M" ++
      numeral (d.seconds % 60) ++ placesText d.millis ++ "S" := rfl
  simp [literal, written, magnitudeChars]

/-- The fields of a literal add up to the magnitude, but for the part below a millisecond. -/
theorem readMagnitude?_written (d : Duration) (rest : List Char) :
    readMagnitude? (d.magnitudeChars rest) =
      some (d.nanoseconds.natAbs / 1000000 * 1000000, rest) := by
  have days := readField?_numeral (d.seconds / 86400) (show 'D'.isDigit = false by decide)
  have hours := readField?_numeral (d.seconds / 3600 % 24) (show 'H'.isDigit = false by decide)
  have minutes := readField?_numeral (d.seconds / 60 % 60) (show 'M'.isDigit = false by decide)
  have seconds := readSeconds?_written (d.seconds % 60)
    (show d.millis < 1000 from Nat.mod_lt _ (by decide))
  have below : d.seconds / 3600 % 24 < 24 ∧ d.seconds / 60 % 60 < 60 ∧ d.seconds % 60 < 60 := by
    omega
  -- Each field is the remainder that the field before it leaves.
  have total : (((d.seconds / 86400 * 24 + d.seconds / 3600 % 24) * 60 + d.seconds / 60 % 60) * 60 +
      d.seconds % 60) * 1000000000 + d.millis * 1000000 =
        d.nanoseconds.natAbs / 1000000 * 1000000 := by
    rw [Duration.seconds, millis]
    omega
  simp [readMagnitude?, magnitudeChars, days, hours, minutes, seconds, below, total]

theorem nanoseconds_wholeMillis (d : Duration) :
    d.wholeMillis.nanoseconds =
      if d.nanoseconds < 0 then -((d.nanoseconds.natAbs / 1000000 * 1000000 : Nat) : Int)
      else (d.nanoseconds.natAbs / 1000000 * 1000000 : Nat) := by
  simp only [wholeMillis]
  split
  · rw [← Int.neg_neg d.nanoseconds, Int.neg_tdiv, Int.tdiv_eq_ediv_of_nonneg (by omega)]
    omega
  · rw [Int.tdiv_eq_ediv_of_nonneg (by omega)]
    omega

theorem ofLiteral?_literal (d : Duration) : ofLiteral? d.literal = some d.wholeMillis := by
  have magnitude := readMagnitude?_written d ['\'']
  have whole := nanoseconds_wholeMillis d
  rw [ofLiteral?, toList_literal, foldlM_behind?, Option.bind_some]
  -- The sign comes from the nanoseconds, so a part below a millisecond still has its minus.
  by_cases negative : d.nanoseconds < 0
  · rw [if_pos negative] at whole
    rw [signText, if_pos negative]
    change readSigned? ('-' :: d.magnitudeChars ['\'']) = _
    simp only [readSigned?, magnitude, ← whole]
  · rw [if_neg negative] at whole
    rw [signText, if_neg negative]
    change readSigned? (d.magnitudeChars ['\'']) = _
    have first : ∀ chars, d.magnitudeChars ['\''] ≠ '-' :: chars := by simp [magnitudeChars]
    rw [readSigned?.eq_def]
    split
    · rename_i chars same
      exact absurd same (first chars)
    · simp only [magnitude, ← whole]

theorem wholeMillis_eq_self_iff : d.wholeMillis = d ↔ 1000000 ∣ d.nanoseconds := by
  obtain ⟨n⟩ := d
  have parts := Int.mul_tdiv_add_tmod n 1000000
  simp only [wholeMillis, mk.injEq, Int.dvd_iff_tmod_eq_zero]
  omega

theorem natAbs_wholeMillis (d : Duration) :
    d.wholeMillis.nanoseconds.natAbs = d.nanoseconds.natAbs / 1000000 * 1000000 := by
  rw [nanoseconds_wholeMillis]
  split <;> omega

theorem head?_literalText (d : Duration) :
    d.literalText.toList.head? = some '-' ↔ d.nanoseconds < 0 := by
  by_cases negative : d.nanoseconds < 0
  · simp [literalText, signText, negative]
  · simp [literalText, signText, negative]

theorem literal_eq_iff :
    d.literal = d'.literal ↔
      d.wholeMillis = d'.wholeMillis ∧ (d.nanoseconds < 0 ↔ d'.nanoseconds < 0) := by
  constructor
  · intro same
    have read := congrArg ofLiteral? same
    rw [ofLiteral?_literal, ofLiteral?_literal, Option.some.injEq] at read
    have texts : d.literalText = d'.literalText := by simpa [literal] using same
    rw [← head?_literalText d, ← head?_literalText d', texts]
    exact ⟨read, Iff.rfl⟩
  · intro ⟨same, sign⟩
    have magnitudes : d.nanoseconds.natAbs / 1000000 = d'.nanoseconds.natAbs / 1000000 := by
      have both := natAbs_wholeMillis d
      rw [same, natAbs_wholeMillis d'] at both
      omega
    have signs : d.signText = d'.signText := by simp only [signText, sign]
    have seconds : d.seconds = d'.seconds := by
      rw [Duration.seconds, Duration.seconds]
      omega
    have millis : d.millis = d'.millis := by rw [Duration.millis, magnitudes, Duration.millis]
    apply String.toList_injective
    rw [toList_literal, toList_literal, signs, magnitudeChars, seconds, millis, magnitudeChars]

end Duration

/-- A literal of a duration is read back as the duration without its part below a millisecond.
So it is read back as it was exactly if it has no such part, and two durations share a literal
exactly if they have the same sign and the same whole milliseconds. -/
theorem Literal.durations_read_back (schema : Schema) (d : Duration) :
    serialize schema (.duration d) (.edm "Duration") = .ok d.literal ∧
    Duration.ofLiteral? d.literal = some d.wholeMillis ∧
    (Duration.ofLiteral? d.literal = some d ↔ 1000000 ∣ d.nanoseconds) ∧
    ∀ d' : Duration, d.literal = d'.literal ↔
      d.wholeMillis = d'.wholeMillis ∧ (d.nanoseconds < 0 ↔ d'.nanoseconds < 0) := by
  refine ⟨rfl, Duration.ofLiteral?_literal d, ?_, fun _ => Duration.literal_eq_iff⟩
  rw [Duration.ofLiteral?_literal, Option.some.injEq]
  exact Duration.wholeMillis_eq_self_iff

theorem Literal.serialize_microsecond :
    serialize .empty (.duration ⟨1000⟩) (.edm "Duration") = .ok "duration'P0DT0H0M0S'" := by
  rfl

/-- A microsecond is written as no time at all. -/
theorem Literal.microsecond_lost :
    ¬∀ (schema : Schema) (d : Duration) (text : String),
      serialize schema (.duration d) (.edm "Duration") = .ok text →
      Duration.ofLiteral? text = some d := by
  intro exact
  have read := exact .empty ⟨1000⟩ "duration'P0DT0H0M0S'" serialize_microsecond
  have none : Duration.ofLiteral? "duration'P0DT0H0M0S'" = some ⟨0⟩ :=
    Duration.ofLiteral?_literal ⟨1000⟩
  simp [none] at read

end ODataRequest
