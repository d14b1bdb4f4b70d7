import ODataRequest.Json.Reader
import ODataRequest.Text.Blank
import ODataRequest.Proofs.JsonNumerals
namespace ODataRequest

/-!
Documents that are integers. Only blanks stand around the number: what begins as a container is
one to its end, and behind a scalar nothing follows.
-/

namespace JsonToken

theorem next?_number {char : Char} {rest : List Char} (numeric : isNumberChar char = true) :
    next? (char :: rest) = (JsonNumber.ofChars? (char :: rest.takeWhile isNumberChar)).map
      fun n => (.scalar (.number n), rest.dropWhile isNumberChar) := by
  unfold next?
  split
  case h_12 same =>
    cases same
    exact if_pos numeric
  all_goals
    rename_i same
    cases same
    try exact absurd numeric (by decide)

theorem next?_eq_number {chars rest : List Char} {n : JsonNumber}
    (read : next? chars = some (.scalar (.number n), rest)) :
    ∃ char behind, chars = char :: behind ∧ isNumberChar char = true := by
  unfold next? at read
  split at read
  case h_8 =>
    rcases Option.map_eq_some_iff.mp read with ⟨body, _, same⟩
    cases same
  case h_12 char behind _ _ _ _ _ _ _ _ _ _ =>
    split at read
    · rename_i numeric
      exact ⟨char, behind, rfl, numeric⟩
    · cases read
  all_goals cases read

theorem isBlank_of_isNumberChar {char : Char} (numeric : isNumberChar char = true) :
    Text.isBlank char = false := by
  simp only [isNumberChar, Bool.or_eq_true, beq_iff_eq] at numeric
  rcases numeric with ((((digit | rfl) | rfl) | rfl) | rfl) | rfl
  · have bounds := bounds_of_isDigit digit
    simp [Text.isBlank]
    omega
  all_goals decide

theorem isBlank_of_blank {char : Char} (blank : isBlank char = true) :
    Text.isBlank char = true := by
  simp only [isBlank, Bool.or_eq_true, beq_iff_eq] at blank
  rcases blank with ((rfl | rfl) | rfl) | rfl <;> decide

/-- No token begins with a blank, also with one that separates no tokens. -/
theorem next?_blank {char : Char} {rest : List Char} (blank : Text.isBlank char = true) :
    next? (char :: rest) = none := by
  unfold next?
  split
  case h_12 same =>
    cases same
    refine if_neg fun numeric => ?_
    cases blank.symm.trans (isBlank_of_isNumberChar numeric)
  all_goals
    rename_i same
    cases same
    try exact absurd blank (by decide)

theorem all?_blank {char : Char} {rest : List Char} (blank : isBlank char = true) :
    all? (char :: rest) = all? rest := by
  rw [all?, if_pos blank]

theorem all?_solid {char : Char} {rest : List Char} (solid : ¬isBlank char = true) :
    all? (char :: rest) =
      (next? (char :: rest)).bind fun read => (all? read.2).map (read.1 :: ·) := by
  rw [all?, if_neg solid]
  split
  · rename_i unread
    rw [unread]
    rfl
  · rename_i read
    rw [read]
    rfl

theorem all?_blanks {before rest : List Char} (blank : ∀ char ∈ before, isBlank char = true) :
    all? (before ++ rest) = all? rest := by
  induction before with
  | nil => rfl
  | cons char before ih =>
    rw [List.cons_append, all?_blank (blank char List.mem_cons_self)]
    exact ih fun char member => blank char (List.mem_cons_of_mem _ member)

theorem blanks_of_all? {before rest : List Char} {tokens : List JsonToken}
    (spaced : ∀ char ∈ before, Text.isBlank char = true)
    (read : all? (before ++ rest) = some tokens) :
    (∀ char ∈ before, isBlank char = true) ∧ all? rest = some tokens := by
  induction before with
  | nil => exact ⟨nofun, read⟩
  | cons char before ih =>
    by_cases blank : isBlank char = true
    · rw [List.cons_append, all?_blank blank] at read
      rcases ih (fun char member => spaced char (List.mem_cons_of_mem _ member)) read with
        ⟨blanks, read⟩
      exact ⟨List.forall_mem_cons.mpr ⟨blank, blanks⟩, read⟩
    · rw [List.cons_append, all?_solid blank, next?_blank (spaced char List.mem_cons_self)] at read
      cases read

theorem all?_eq_nil {chars : List Char} (read : all? chars = some []) :
    ∀ char ∈ chars, isBlank char = true := by
  induction chars with
  | nil => nofun
  | cons char rest ih =>
    by_cases blank : isBlank char = true
    · rw [all?_blank blank] at read
      exact List.forall_mem_cons.mpr ⟨blank, ih read⟩
    · rw [all?_solid blank] at read
      rcases Option.bind_eq_some_iff.mp read with ⟨_, _, read⟩
      rcases Option.map_eq_some_iff.mp read with ⟨_, _, same⟩
      cases same

theorem span_numeric {after : List Char} (stops : ∀ char ∈ after, Text.isBlank char = true) :
    after.takeWhile isNumberChar = [] ∧ after.dropWhile isNumberChar = after := by
  cases after with
  | nil => exact ⟨rfl, rfl⟩
  | cons char rest =>
    have other : ¬isNumberChar char = true := by
      intro numeric
      cases (stops char List.mem_cons_self).symm.trans (isBlank_of_isNumberChar numeric)
    exact ⟨List.takeWhile_cons_of_neg other, List.dropWhile_cons_of_neg other⟩

theorem all?_number {lexeme after : List Char} (filled : lexeme ≠ [])
    (numeric : ∀ char ∈ lexeme, isNumberChar char = true)
    (stops : ∀ char ∈ after, Text.isBlank char = true) :
    all? (lexeme ++ after) = (JsonNumber.ofChars? lexeme).bind fun n =>
      (all? after).map (.scalar (.number n) :: ·) := by
  rcases List.exists_cons_of_ne_nil filled with ⟨char, rest, rfl⟩
  have first := numeric char List.mem_cons_self
  have others := fun char member => numeric char (List.mem_cons_of_mem _ member)
  have solid : ¬isBlank char = true := fun blank => by
    cases (isBlank_of_blank blank).symm.trans (isBlank_of_isNumberChar first)
  have taken : next? (char :: (rest ++ after)) = (JsonNumber.ofChars? (char :: rest)).map
      fun n => (.scalar (.number n), after) := by
    rw [next?_number first, List.takeWhile_append_of_pos others,
      List.dropWhile_append_of_pos others, (span_numeric stops).1, (span_numeric stops).2,
      List.append_nil]
  rw [List.cons_append, all?_solid solid, taken, Option.bind_map]
  rfl

theorem lexeme_of_all? {chars : List Char} {n : JsonNumber}
    (read : all? chars = some [.scalar (.number n)]) :
    ∃ before lexeme after, chars = before ++ lexeme ++ after ∧
      (∀ char ∈ before, isBlank char = true) ∧ (∀ char ∈ after, isBlank char = true) ∧
      JsonNumber.ofChars? lexeme = some n := by
  induction chars with
  | nil =>
    rw [all?] at read
    cases read
  | cons char rest ih =>
    by_cases blank : isBlank char = true
    · rw [all?_blank blank] at read
      rcases ih read with ⟨before, lexeme, after, rfl, blanks, others, made⟩
      exact ⟨char :: before, lexeme, after, rfl, List.forall_mem_cons.mpr ⟨blank, blanks⟩, others,
        made⟩
    · rw [all?_solid blank] at read
      rcases Option.bind_eq_some_iff.mp read with ⟨⟨token, behind⟩, taken, read⟩
      rcases Option.map_eq_some_iff.mp read with ⟨tokens, ended, same⟩
      cases same
      rcases next?_eq_number taken with ⟨_, _, same, numeric⟩
      cases same
      rw [next?_number numeric] at taken
      rcases Option.map_eq_some_iff.mp taken with ⟨m, made, same⟩
      cases same
      refine ⟨[], char :: rest.takeWhile isNumberChar, _, ?_, List.forall_mem_nil _,
        all?_eq_nil ended, made⟩
      rw [List.nil_append, List.cons_append, List.takeWhile_append_dropWhile]

end JsonToken

namespace JsonState

def Compound : JsonState → Prop
  | reading _ frames => frames ≠ []
  | finished (.array _) | finished (.object _) => True
  | finished _ => False

theorem compound_deliver {json : Json} {frames : List JsonFrame} {next : JsonState}
    (filled : frames ≠ [] ∨ Compound (finished json))
    (delivered : deliver json frames = some next) : next.Compound := by
  unfold deliver at delivered
  split at delivered
  · cases delivered
    exact filled.resolve_left fun filled => filled rfl
  · cases delivered
    exact List.cons_ne_nil _ _
  · cases delivered
    exact List.cons_ne_nil _ _
  · cases delivered

theorem compound_enter {stage : JsonStage} {frame : JsonFrame} {frames : List JsonFrame}
    {next : JsonState} (entered : enter stage frame frames = some next) : next.Compound := by
  unfold enter at entered
  split at entered
  · cases entered
    exact List.cons_ne_nil _ _
  · cases entered

theorem compound_takeValue {token : JsonToken} {frames : List JsonFrame} {next : JsonState}
    (filled : frames ≠ [] ∨ ∀ json, token ≠ .scalar json)
    (taken : takeValue frames token = some next) : next.Compound := by
  unfold takeValue at taken
  split at taken
  · rename_i json
    exact compound_deliver (filled.imp_right fun compound => absurd rfl (compound json)) taken
  · exact compound_enter taken
  · exact compound_enter taken
  · cases taken

theorem compound_takeName {token : JsonToken} {frames : List JsonFrame} {next : JsonState}
    (taken : takeName frames token = some next) : next.Compound := by
  unfold takeName at taken
  split at taken
  · cases taken
    exact List.cons_ne_nil _ _
  · cases taken

theorem compound_close {token : JsonToken} {frames : List JsonFrame} {next : JsonState}
    (closed : close frames token = some next) : next.Compound := by
  unfold close at closed
  split at closed
  · refine compound_deliver (.inr ?_) closed
    exact trivial
  · refine compound_deliver (.inr ?_) closed
    exact trivial
  · cases closed

theorem compound_step {state next : JsonState} {token : JsonToken} (compound : state.Compound)
    (stepped : state.step token = some next) : next.Compound := by
  unfold step at stepped
  split at stepped
  · cases stepped
  · exact compound_takeValue (.inl compound) stepped
  · rcases Option.or_eq_some_iff.mp stepped with closed | ⟨_, taken⟩
    · exact compound_close closed
    · exact compound_takeValue (.inl compound) taken
  · rcases Option.or_eq_some_iff.mp stepped with closed | ⟨_, taken⟩
    · exact compound_close closed
    · exact compound_takeName taken
  · exact compound_takeName stepped
  · split at stepped
    · cases stepped
      exact compound
    · cases stepped
  · split at stepped
    · cases stepped
      exact List.cons_ne_nil _ _
    · cases stepped
      exact List.cons_ne_nil _ _
    · exact compound_close stepped

theorem compound_run {state final : JsonState} {tokens : List JsonToken} (compound : state.Compound)
    (run : tokens.foldlM step state = some final) : final.Compound := by
  induction tokens generalizing state with
  | nil =>
    cases run
    exact compound
  | cons token rest ih =>
    rw [List.foldlM_cons] at run
    rcases Option.bind_eq_some_iff.mp run with ⟨next, stepped, run⟩
    exact ih (compound_step compound stepped) run

theorem run_scalar {tokens : List JsonToken} {value : Json} {final : JsonState}
    (run : (.scalar value :: tokens).foldlM step start = some final) :
    tokens = [] ∧ final = finished value := by
  rw [List.foldlM_cons] at run
  rcases Option.bind_eq_some_iff.mp run with ⟨next, stepped, run⟩
  cases stepped
  cases tokens with
  | nil =>
    cases run
    exact ⟨rfl, rfl⟩
  | cons token rest => cases run

theorem tokens_of_finished {tokens : List JsonToken} {json : Json}
    (run : tokens.foldlM step start = some (finished json)) :
    Compound (finished json) ∨ tokens = [.scalar json] := by
  cases tokens with
  | nil => cases run
  | cons token rest =>
    by_cases scalar : ∃ value, token = .scalar value
    · rcases scalar with ⟨value, rfl⟩
      rcases run_scalar run with ⟨rfl, same⟩
      cases same
      exact .inr rfl
    · rw [List.foldlM_cons] at run
      rcases Option.bind_eq_some_iff.mp run with ⟨next, taken, run⟩
      have compound : next.Compound :=
        compound_takeValue (.inr fun json same => scalar ⟨json, same⟩) taken
      exact .inl (compound_run compound run)

end JsonState

namespace Json

theorem ofChars?_eq_some {chars : List Char} {json : Json} : ofChars? chars = some json ↔
    ∃ tokens, JsonToken.all? chars = some tokens ∧
      tokens.foldlM JsonState.step .start = some (.finished json) := by
  unfold ofChars?
  simp only [Option.bind_eq_bind, Option.bind_eq_some_iff]
  constructor
  · rintro ⟨tokens, split, state, run, ended⟩
    cases state with
    | finished document =>
      cases ended
      exact ⟨tokens, split, run⟩
    | reading => cases ended
  · rintro ⟨tokens, split, run⟩
    exact ⟨tokens, split, _, run, rfl⟩

theorem ofChars?_number_iff {chars : List Char} {n : JsonNumber} :
    ofChars? chars = some (.number n) ↔
      JsonToken.all? chars = some [.scalar (.number n)] := by
  rw [ofChars?_eq_some]
  constructor
  · rintro ⟨tokens, split, run⟩
    rcases JsonState.tokens_of_finished run with compound | rfl
    · cases compound
    · exact split
  · intro split
    exact ⟨_, split, rfl⟩

def Spaced (chars lexeme : List Char) : Prop :=
  ∃ before after, chars = before ++ lexeme ++ after ∧
    (∀ char ∈ before, JsonToken.isBlank char = true) ∧
    ∀ char ∈ after, JsonToken.isBlank char = true

theorem isNumberChar_of_mem_signedNumeral {i : Int} {char : Char}
    (member : char ∈ (signedNumeral i).toList) : JsonToken.isNumberChar char = true := by
  rcases isDigit_or_minus_of_mem_signedNumeral member with digit | rfl
  · simp [JsonToken.isNumberChar, digit]
  · decide

/-- The documents that are integers are the numerals of the integers of 64 bits, signed or not,
with any blanks around them. -/
theorem ofChars?_integer_iff {chars : List Char} {i : Int} :
    ofChars? chars = some (.number (.integer i)) ↔
      Spaced chars (signedNumeral i).toList ∧ -2 ^ 63 ≤ i ∧ i < 2 ^ 64 := by
  rw [ofChars?_number_iff]
  constructor
  · intro read
    rcases JsonToken.lexeme_of_all? read with ⟨before, lexeme, after, rfl, blanks, others, made⟩
    rcases JsonNumber.ofChars?_integer_iff.mp made with ⟨rfl, range⟩
    exact ⟨⟨before, after, rfl, blanks, others⟩, range⟩
  · rintro ⟨⟨before, after, rfl, blanks, others⟩, range⟩
    have made := JsonNumber.ofChars?_integer_iff.mpr ⟨rfl, range⟩
    have filled : (signedNumeral i).toList ≠ [] := by
      intro empty
      rw [empty] at made
      cases made
    have ended : JsonToken.all? after = some [] := by
      rw [← List.append_nil after, JsonToken.all?_blanks others, JsonToken.all?]
    have stops : ∀ char ∈ after, Text.isBlank char = true :=
      fun char member => JsonToken.isBlank_of_blank (others char member)
    have split := JsonToken.all?_number filled (fun _ => isNumberChar_of_mem_signedNumeral) stops
    rw [List.append_assoc, JsonToken.all?_blanks blanks, split, made, ended]
    rfl

theorem int64?_eq_some_iff {json : Json} {i : Int} :
    json.int64? = some i ↔ json = .number (.integer i) ∧ fitsSigned64 i = true := by
  unfold int64?
  split
  · rename_i j
    rw [number.injEq, JsonNumber.integer.injEq]
    split
    · rename_i fits
      rw [Option.some.injEq]
      constructor
      · rintro rfl
        exact ⟨rfl, fits⟩
      · exact And.left
    · rename_i unfit
      refine ⟨nofun, ?_⟩
      rintro ⟨rfl, fits⟩
      exact absurd fits unfit
  · rename_i other
    refine ⟨nofun, ?_⟩
    rintro ⟨rfl, _⟩
    exact absurd rfl (other i)

theorem int64?_ofChars?_iff {chars : List Char} {i : Int} :
    (ofChars? chars).bind int64? = some i ↔
      Spaced chars (signedNumeral i).toList ∧ fitsSigned64 i = true := by
  simp only [Option.bind_eq_some_iff, int64?_eq_some_iff]
  constructor
  · rintro ⟨_, read, rfl, fits⟩
    exact ⟨(ofChars?_integer_iff.mp read).1, fits⟩
  · rintro ⟨spaced, fits⟩
    refine ⟨_, ofChars?_integer_iff.mpr ⟨spaced, ?_⟩, rfl, fits⟩
    rw [fitsSigned64, decide_eq_true_iff] at fits
    omega

end Json
end ODataRequest
