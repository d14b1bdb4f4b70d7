import ODataRequest.Proofs.JsonIntegers
import ODataRequest.Proofs.KeyTexts
import ODataRequest.Proofs.PercentDecoding
namespace ODataRequest

namespace Text

theorem trimmed_split (chars : List Char) : ∃ before after,
    chars = before ++ trimmed chars ++ after ∧ (∀ char ∈ before, isBlank char = true) ∧
      ∀ char ∈ after, isBlank char = true := by
  let rest := (chars.dropWhile isBlank).reverse
  refine ⟨chars.takeWhile isBlank, (rest.takeWhile isBlank).reverse, ?_, ?_, ?_⟩
  · have back : trimmed chars ++ (rest.takeWhile isBlank).reverse = chars.dropWhile isBlank := by
      rw [trimmed, ← List.reverse_append, List.takeWhile_append_dropWhile, List.reverse_reverse]
    rw [List.append_assoc, back, List.takeWhile_append_dropWhile]
  · exact fun char member => List.all_eq_true.mp List.all_takeWhile char member
  · intro char member
    exact List.all_eq_true.mp List.all_takeWhile char (List.mem_reverse.mp member)

theorem dropWhile_solid {lexeme after : List Char} (filled : lexeme ≠ [])
    (solid : ∀ char ∈ lexeme, isBlank char = false) :
    (lexeme ++ after).dropWhile isBlank = lexeme ++ after := by
  rcases List.exists_cons_of_ne_nil filled with ⟨char, rest, rfl⟩
  apply List.dropWhile_cons_of_neg
  rw [solid char List.mem_cons_self]
  exact Bool.false_ne_true

theorem trimmed_append {before lexeme after : List Char}
    (blanks : ∀ char ∈ before, isBlank char = true)
    (others : ∀ char ∈ after, isBlank char = true) (filled : lexeme ≠ [])
    (solid : ∀ char ∈ lexeme, isBlank char = false) :
    trimmed (before ++ lexeme ++ after) = lexeme := by
  have closed : (lexeme.reverse ++ []).dropWhile isBlank = lexeme.reverse ++ [] :=
    dropWhile_solid (List.reverse_ne_nil_iff.mpr filled)
      fun char member => solid char (List.mem_reverse.mp member)
  rw [List.append_nil] at closed
  rw [trimmed, List.append_assoc, List.dropWhile_append_of_pos blanks,
    dropWhile_solid filled solid, List.reverse_append,
    List.dropWhile_append_of_pos fun char member => others char (List.mem_reverse.mp member),
    closed, List.reverse_reverse]

end Text

theorem readInteger?_inversion {chars : List Char} {i : Int} (read : readInteger? chars = some i) :
    ∃ digits, digits ≠ [] ∧ (∀ char ∈ digits, char.isDigit = true) ∧
      (chars = '+' :: digits ∨ ∃ negative, chars = JsonNumber.sign negative ++ digits ∧
        i = if negative then -(Nat.ofDigitChars 10 digits 0 : Int)
          else Nat.ofDigitChars 10 digits 0) := by
  unfold readInteger? at read
  split at read
  all_goals
    rcases Option.map_eq_some_iff.mp read with ⟨_, lifted, rfl⟩
    rcases Option.bind_eq_some_iff.mp lifted with ⟨n, digits, same⟩
    cases same
    rcases digits_of_readDigits? digits with ⟨filled, each⟩
    rw [readDigits?_of_digits filled each] at digits
    cases digits
    refine ⟨_, filled, each, ?_⟩
  · exact .inr ⟨true, rfl, rfl⟩
  · exact .inl rfl
  · exact .inr ⟨false, rfl, rfl⟩

namespace Json

theorem trimmed_of_spaced {chars : List Char} {i : Int}
    (spaced : Spaced chars (signedNumeral i).toList) :
    Text.trimmed chars = (signedNumeral i).toList := by
  rcases spaced with ⟨before, after, rfl, blanks, others⟩
  apply Text.trimmed_append
  · exact fun char member => JsonToken.isBlank_of_blank (blanks char member)
  · exact fun char member => JsonToken.isBlank_of_blank (others char member)
  · rw [JsonNumber.signedNumeral_eq]
    exact List.append_ne_nil_of_right_ne_nil _ Nat.toDigits_ne_nil
  · intro char member
    exact JsonToken.isBlank_of_isNumberChar (isNumberChar_of_mem_signedNumeral member)

theorem spaced_of_trimmed {chars : List Char} {json : Json} (read : ofChars? chars = some json)
    (filled : Text.trimmed chars ≠ [])
    (numeric : ∀ char ∈ Text.trimmed chars, JsonToken.isNumberChar char = true) :
    Spaced chars (Text.trimmed chars) ∧ ∃ n, JsonNumber.ofChars? (Text.trimmed chars) = some n := by
  rcases Text.trimmed_split chars with ⟨before, after, same, opened, closed⟩
  rcases ofChars?_eq_some.mp read with ⟨tokens, split, run⟩
  rw [same, List.append_assoc] at split
  rcases JsonToken.blanks_of_all? opened split with ⟨blanks, split⟩
  rw [JsonToken.all?_number filled numeric closed] at split
  rcases Option.bind_eq_some_iff.mp split with ⟨n, made, split⟩
  rcases Option.map_eq_some_iff.mp split with ⟨rest, ended, rfl⟩
  rcases JsonState.run_scalar run with ⟨rfl, _⟩
  exact ⟨⟨before, after, same, blanks, JsonToken.all?_eq_nil ended⟩, n, made⟩

theorem numberChars_of_readInteger? {chars : List Char} {i : Int}
    (read : readInteger? chars = some i) :
    chars ≠ [] ∧ ∀ char ∈ chars, JsonToken.isNumberChar char = true := by
  rcases readInteger?_inversion read with ⟨digits, filled, each, written⟩
  have numeric : ∀ char ∈ digits, JsonToken.isNumberChar char = true := by
    intro char member
    simp [JsonToken.isNumberChar, each char member]
  rcases written with rfl | ⟨negative, rfl, _⟩
  · exact ⟨List.cons_ne_nil _ _, List.forall_mem_cons.mpr ⟨rfl, numeric⟩⟩
  · refine ⟨List.append_ne_nil_of_right_ne_nil _ filled, ?_⟩
    cases negative with
    | true => exact List.forall_mem_cons.mpr ⟨rfl, numeric⟩
    | false => exact numeric

/-- What is a document and, without the blanks around it, an integer is the numeral of this
integer or minus zero. -/
theorem numeral_of_readInteger? {chars : List Char} {json : Json} {i : Int}
    (read : ofChars? chars = some json) (counted : readInteger? (Text.trimmed chars) = some i) :
    Text.trimmed chars = ['-', '0'] ∨ Spaced chars (signedNumeral i).toList := by
  rcases numberChars_of_readInteger? counted with ⟨filled, numeric⟩
  rcases spaced_of_trimmed read filled numeric with ⟨spaced, n, made⟩
  rcases Option.bind_eq_some_iff.mp made with ⟨lexeme, split, _⟩
  rcases readInteger?_inversion counted with ⟨digits, _, each, written⟩
  rcases written with plus | ⟨negative, signed, rfl⟩
  · rw [plus, JsonNumber.lexeme?_plus] at split
    cases split
  · rw [signed, JsonNumber.lexeme?_digits negative each] at split
    have plain : PlainDigits digits := by
      refine JsonNumber.soundWhole_iff.mp ?_
      by_contra unsound
      rw [if_neg unsound] at split
      cases split
    have same := toDigits_ofDigitChars each plain
    generalize Nat.ofDigitChars 10 digits 0 = value at same ⊢
    subst same
    by_cases zero : negative = true ∧ value = 0
    · rcases zero with ⟨rfl, rfl⟩
      exact .inl signed
    · refine .inr ?_
      rwa [JsonNumber.signedNumeral_of_sign fun negative none => zero ⟨negative, none⟩, ← signed]

end Json

namespace Response

theorem readInt64?_eq_some_iff {chars : List Char} {i : Int} :
    readInt64? chars = some i ↔ readInteger? chars = some i ∧ fitsSigned64 i = true :=
  Option.filter_eq_some_iff

theorem readInt64?_trimmed {chars : List Char} {n i : Int}
    (spaced : Json.Spaced chars (signedNumeral n).toList) :
    readInt64? (Text.trimmed chars) = some i ↔ n = i ∧ fitsSigned64 i = true := by
  rw [readInt64?_eq_some_iff, Json.trimmed_of_spaced spaced, readInteger?_signedNumeral,
    Option.some.injEq]

theorem int64?_eq_readInt64?_iff {chars : List Char} {json : Json}
    (read : Json.ofChars? chars = some json) :
    json.int64? = readInt64? (Text.trimmed chars) ↔ Text.trimmed chars ≠ ['-', '0'] := by
  have counted {i : Int} : json.int64? = some i ↔
      Json.Spaced chars (signedNumeral i).toList ∧ fitsSigned64 i = true := by
    rw [← Json.int64?_ofChars?_iff, read]
    rfl
  constructor
  · intro same minus
    have zero : readInt64? (Text.trimmed chars) = some 0 := by
      rw [minus]
      rfl
    have spaced := (counted.mp (same.trans zero)).1
    rw [Json.trimmed_of_spaced spaced] at minus
    cases minus
  · intro other
    ext i
    rw [counted]
    constructor
    · rintro ⟨spaced, fits⟩
      exact (readInt64?_trimmed spaced).mpr ⟨rfl, fits⟩
    · intro text
      rcases readInt64?_eq_some_iff.mp text with ⟨integer, fits⟩
      exact ⟨(Json.numeral_of_readInteger? read integer).resolve_left other, fits⟩

section Bodies

variable {octets : List UInt8} {text : String} {body : Body}

theorem jsonBody_integer (decoded : Text.ofUtf8? octets = some text) :
    jsonBody octets .integer = .ok body ↔
      ∃ i, (Json.ofText? text).bind Json.int64? = some i ∧ body = .integer i := by
  rw [jsonBody, decoded, Option.bind_some]
  cases Json.ofText? text with
  | none => simp
  | some json =>
    dsimp only
    rw [if_pos rfl, Option.bind_some]
    cases json.int64? with
    | none => simp
    | some i => simp [eq_comm]

theorem textBody_integer (decoded : Text.ofUtf8? octets = some text) :
    textBody octets .integer = .ok body ↔
      ∃ i, readInt64? (Text.trimmed text.toList) = some i ∧ body = .integer i := by
  rw [textBody, decoded]
  dsimp only
  rw [if_pos rfl]
  cases readInt64? (Text.trimmed text.toList) with
  | none => simp
  | some i => simp [eq_comm]

theorem parse_of_success {response : Response} (success : response.status.isSuccess = true)
    (expected : Expectation) : response.parse expected = (do
      response.warnMismatch expected
      .ofExcept
        ((if response.isJson then jsonBody else textBody) response.body expected.accept)) := by
  rw [parse, success]
  rfl

theorem outcome_parse {response : Response} (success : response.status.isSuccess = true)
    (expected : Expectation) : (response.parse expected).outcome =
      (if response.isJson then jsonBody else textBody) response.body expected.accept := by
  rw [parse_of_success success, warnMismatch]
  split <;> rfl

theorem parse_numeral {response : Response} {expected : Expectation} {n : Int}
    (success : response.status.isSuccess = true) (counted : expected.accept = .integer)
    (decoded : Text.ofUtf8? response.body = some text)
    (spaced : Json.Spaced text.toList (signedNumeral n).toList) :
    (response.parse expected).outcome = .ok body ↔
      fitsSigned64 n = true ∧ body = .integer n := by
  have same {i : Int} : Json.Spaced text.toList (signedNumeral i).toList ↔ n = i := by
    constructor
    · intro other
      exact signedNumeral_injective
        ((Json.trimmed_of_spaced spaced).symm.trans (Json.trimmed_of_spaced other))
    · rintro rfl
      exact spaced
  have unique {P : Int → Prop} : (∃ i, (n = i ∧ fitsSigned64 i = true) ∧ P i) ↔
      fitsSigned64 n = true ∧ P n := by
    simp
  rw [outcome_parse success, counted]
  split
  · simp only [jsonBody_integer decoded, Json.ofText?, Json.int64?_ofChars?_iff, same, unique]
  · simp only [textBody_integer decoded, readInt64?_trimmed spaced, unique]

end Bodies
end Response

theorem Draft.accept_of_finish {mapping : Mapping} {draft : Draft} {root : String}
    {target : Target} (finished : draft.finish mapping root = .ok target) :
    target.accept = draft.accept := by
  unfold finish at finished
  split at finished
  · cases finished
  · rcases bind_eq_ok.mp finished with ⟨bindings, _, finished⟩
    rcases bind_eq_ok.mp finished with ⟨final, added, same⟩
    cases same
    apply foldlM_invariant (fun next : Draft => next.accept = draft.accept) _ rfl added
    intro next binding next' _ kept stepped
    rcases addPair_eq_ok.mp stepped with ⟨_, rfl⟩
    exact kept

namespace RequestDraft

variable {draft : RequestDraft} {request : Request} {target : Target} {response : Response}

theorem target_of_request (asked : draft.request.outcome = .ok (request, target)) :
    draft.target.outcome = .ok target := by
  rcases Logged.outcome_bind_eq_ok.mp asked with ⟨mapped, found, asked⟩
  have same : mapped = target := by
    dsimp only at asked
    cases line : RequestTarget.ofText? (draft.addressText mapped) with
    | none =>
      rw [line] at asked
      cases asked
    | some line =>
      simp only [line] at asked
      cases asked
      rfl
  subst same
  change draft.target.outcome.mapError ClientError.query = .ok mapped at found
  cases outcome : draft.target.outcome with
  | ok reached =>
    rw [outcome] at found
    cases found
    rfl
  | error e =>
    rw [outcome] at found
    cases found

theorem accept_of_count (asked : draft.request.outcome = .ok (request, target))
    (counted : pathEnd? draft.resource.parts = some .count) : target.accept = .integer := by
  rcases Logged.outcome_bind_eq_ok.mp (target_of_request asked) with ⟨reached, drafted, finished⟩
  have ended := (Draft.consistent_draft drafted).ended
  rw [counted] at ended
  exact (Draft.accept_of_finish finished).trans ended.2.1

theorem outcome_get (asked : draft.request.outcome = .ok (request, target))
    (plain : draft.interceptors = [])
    (answered : draft.client.tools.transport request = .ok response) :
    draft.get.outcome =
      (response.parse ⟨target.accept, draft.client.ignoreWarnings⟩).outcome := by
  rw [get, Logged.outcome_bind, asked, plain]
  dsimp only [bind, Except.bind]
  rw [answered]
  rfl

/-- A count is the integer that the answer writes, with blanks around it, as JSON or as text. An
integer that does not fit into 64 bits is an error. -/
theorem getCount_of_numeral {before after : List Char} {n : Int}
    (asked : draft.request.outcome = .ok (request, target))
    (counted : pathEnd? draft.resource.parts = some .count) (plain : draft.interceptors = [])
    (answered : draft.client.tools.transport request = .ok response)
    (success : response.status.isSuccess = true)
    (blanks : ∀ char ∈ before ++ after, char ∈ [' ', '\t', '\n', '\r'])
    (written : response.body =
      Text.toUtf8 (String.ofList before ++ signedNumeral n ++ String.ofList after)) :
    (draft.getCount.outcome = .ok n ↔ -2 ^ 63 ≤ n ∧ n < 2 ^ 63) ∧
      ((∃ e, draft.getCount.outcome = .error e) ↔ ¬(-2 ^ 63 ≤ n ∧ n < 2 ^ 63)) := by
  let text := String.ofList before ++ signedNumeral n ++ String.ofList after
  have decoded : Text.ofUtf8? response.body = some text := by
    rw [written, Text.toUtf8, Text.ofUtf8?_utf8Encode, String.ofList_toList]
  have isBlank (char : Char) (member : char ∈ before ++ after) : JsonToken.isBlank char = true := by
    have all : [' ', '\t', '\n', '\r'].all JsonToken.isBlank = true := by decide
    exact List.all_eq_true.mp all char (blanks char member)
  have spaced : Json.Spaced text.toList (signedNumeral n).toList := by
    refine ⟨before, after, by simp [text], ?_, ?_⟩
    · exact fun char member => isBlank char (List.mem_append_left _ member)
    · exact fun char member => isBlank char (List.mem_append_right _ member)
  -- What is read does not depend on the content type, so one equivalence serves both ways to read.
  have read {body : Body} : draft.get.outcome = .ok body ↔
      fitsSigned64 n = true ∧ body = .integer n := by
    rw [outcome_get asked plain answered]
    exact Response.parse_numeral success (accept_of_count asked counted) decoded spaced
  have range : fitsSigned64 n = true ↔ -2 ^ 63 ≤ n ∧ n < 2 ^ 63 := by
    rw [fitsSigned64, decide_eq_true_iff]
    omega
  rw [← range, getCount, Logged.outcome_bind]
  by_cases fits : fitsSigned64 n = true
  · have got : draft.get.outcome = .ok (.integer n) := read.mpr ⟨fits, rfl⟩
    rw [got]
    refine ⟨iff_of_true rfl fits, iff_of_false ?_ (not_not_intro fits)⟩
    rintro ⟨e, failed⟩
    cases failed
  · cases got : draft.get.outcome with
    | ok body => exact absurd (read.mp got).1 fits
    | error e =>
      refine ⟨iff_of_false ?_ fits, iff_of_true ⟨e, rfl⟩ fits⟩
      intro same
      cases same

def sampleCount (content : String) : RequestDraft where
  client := { sampleClient with tools := {
    transport := fun _ => .ok ⟨⟨200⟩, some (Text.toUtf8 "text/plain"), Text.toUtf8 content⟩ } }
  set := Mapping.Orders.orders
  resource := ⟨[.entitySet Mapping.Orders.orders, .count]⟩

def sampleLine : RequestTarget := ⟨some "http", "svc", "/Orders/$count", none⟩

def sampleTarget : Target where
  accept := .integer
  type := .int64
  address := ⟨"http://svc", some "Main", some "Orders", "Orders/$count", []⟩

theorem request_sampleCount (content : String) : (sampleCount content).request.outcome =
    .ok (⟨sampleLine, .ofList [(versionHeader, "4"), ("Accept", "application/json")]⟩,
      sampleTarget) := by
  have mapped : (sampleCount content).target.outcome = .ok sampleTarget := by
    with_unfolding_all rfl
  have text : (sampleCount content).addressText sampleTarget = "http://svc/Orders/$count" := by
    change sampleTarget.address.text true = _
    decide +kernel
  have line : RequestTarget.ofText? "http://svc/Orders/$count" = some sampleLine := by
    decide +kernel
  apply Logged.outcome_bind_eq_ok.mpr
  refine ⟨sampleTarget, congrArg (Except.mapError _) mapped, ?_⟩
  simp only [text, line]
  rfl

theorem getCount_of_numeral_greatest :
    (∃ sent, (sampleCount " 9223372036854775807\n").request.outcome = .ok sent) ∧
      (sampleCount " 9223372036854775807\n").getCount.outcome = .ok 9223372036854775807 ∧
      ∃ e, (sampleCount "9223372036854775808").getCount.outcome = .error e := by
  have blanks : ∀ char ∈ [' '] ++ ['\n'], char ∈ [' ', '\t', '\n', '\r'] := by simp
  have greatest : Text.toUtf8 " 9223372036854775807\n" = Text.toUtf8 (String.ofList [' '] ++
      signedNumeral 9223372036854775807 ++ String.ofList ['\n']) := by decide +kernel
  have unspaced : ∀ char ∈ [] ++ [], char ∈ [' ', '\t', '\n', '\r'] := nofun
  have beyond : Text.toUtf8 "9223372036854775808" = Text.toUtf8 (String.ofList [] ++
      signedNumeral 9223372036854775808 ++ String.ofList []) := by decide +kernel
  have sent := request_sampleCount " 9223372036854775807\n"
  have read := getCount_of_numeral sent rfl rfl rfl rfl blanks greatest
  have refused := getCount_of_numeral (request_sampleCount "9223372036854775808") rfl rfl rfl rfl
    unspaced beyond
  exact ⟨⟨_, sent⟩, read.1.mpr (by decide), refused.2.mpr (by decide)⟩

end RequestDraft
end ODataRequest
