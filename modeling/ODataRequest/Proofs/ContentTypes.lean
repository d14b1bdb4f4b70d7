import ODataRequest.Proofs.Counts
namespace ODataRequest

/-!
What the spelling of a content type changes. JSON is looked for in small letters, so a content type
that names it in other letters has the body read as text, with a warning if JSON was asked for.
Only a count comes out the same, as long as it is a document and not minus zero.
-/

namespace Text

theorem occursIn_iff {pattern chars : List Char} :
    occursIn pattern chars = true ↔ pattern <:+: chars := by
  induction chars with
  | nil => simp [occursIn]
  | cons char rest ih => simp [occursIn, List.infix_cons_iff, ih]

def octetChar (octet : UInt8) : Char := Char.ofNat octet.toNat

def smallChar (octet : UInt8) : Char := (octetChar octet).toLower

def smallOctet (octet : UInt8) : UInt8 := (smallChar octet).toNat.toUInt8

def capitalOctet (octet : UInt8) : UInt8 := (octetChar octet).toUpper.toNat.toUInt8

def SpelledAlike (former latter : List UInt8) : Prop :=
  former.map smallChar = latter.map smallChar

theorem forall_octets {P : UInt8 → Prop} (each : ∀ n < 256, P (UInt8.ofNat n)) (octet : UInt8) :
    P octet := by
  have known := each octet.toNat octet.toNat_lt
  rwa [UInt8.ofNat_toNat] at known

theorem octetChar_smallOctet : ∀ octet, octetChar (smallOctet octet) = smallChar octet :=
  forall_octets (by decide +kernel)

theorem smallChar_smallOctet : ∀ octet, smallChar (smallOctet octet) = smallChar octet :=
  forall_octets (by decide +kernel)

theorem smallChar_capitalOctet : ∀ octet, smallChar (capitalOctet octet) = smallChar octet :=
  forall_octets (by decide +kernel)

theorem octetChar_capitalOctet : ∀ octet, octetChar (capitalOctet octet) ≠ 'j' :=
  forall_octets (by decide +kernel)

theorem spelledAlike_small (octets : List UInt8) :
    SpelledAlike octets (octets.map smallOctet) := by
  rw [SpelledAlike, List.map_map]
  exact List.map_congr_left fun octet _ => (smallChar_smallOctet octet).symm

theorem spelledAlike_capital (octets : List UInt8) :
    SpelledAlike octets (octets.map capitalOctet) := by
  rw [SpelledAlike, List.map_map]
  exact List.map_congr_left fun octet _ => (smallChar_capitalOctet octet).symm

def isVisible (char : Char) : Bool := (0x20 ≤ char.toNat && char.toNat < 0x7F) || char == '\t'

theorem isVisible_smallChar : ∀ octet, isVisible (smallChar octet) =
    ((0x20 ≤ octet && octet < 0x7F) || octet == 0x09) :=
  forall_octets (by decide +kernel)

end Text

namespace Response

def labelled (response : Response) (octets : List UInt8) : Response :=
  { response with contentType := some octets }

/-- The content type is a text that names JSON, in letters of any case. -/
def NamesJson (octets : List UInt8) : Prop :=
  (octets.map Text.smallChar).all Text.isVisible = true ∧
    "json".toList <:+: octets.map Text.smallChar

variable {response : Response} {octets other : List UInt8} {expected : Expectation}

theorem isJson_labelled : (response.labelled octets).isJson = true ↔
    (octets.map Text.smallChar).all Text.isVisible = true ∧
      "json".toList <:+: octets.map Text.octetChar := by
  have visible : (octets.map Text.smallChar).all Text.isVisible =
      octets.all fun octet => (0x20 ≤ octet && octet < 0x7F) || octet == 0x09 := by
    rw [List.all_map]
    exact congrArg octets.all (funext Text.isVisible_smallChar)
  rw [visible, isJson, contentTypeText?, labelled, Option.bind_some]
  split
  · rename_i sound
    have chars : (String.ofList (octets.map Text.octetChar)).toList =
        octets.map Text.octetChar := String.toList_ofList
    rw [Option.any_some, Text.occursIn_iff, ← chars]
    exact (and_iff_right sound).symm
  · rename_i unsound
    exact iff_of_false Bool.false_ne_true fun named => unsound named.1

theorem isJson_small (names : NamesJson octets) :
    (response.labelled (octets.map Text.smallOctet)).isJson = true := by
  have alike : (octets.map Text.smallOctet).map Text.smallChar = octets.map Text.smallChar :=
    (Text.spelledAlike_small octets).symm
  have small : (octets.map Text.smallOctet).map Text.octetChar = octets.map Text.smallChar := by
    rw [List.map_map]
    exact List.map_congr_left fun octet _ => Text.octetChar_smallOctet octet
  rw [isJson_labelled, alike, small]
  exact names

theorem isJson_capital : (response.labelled (octets.map Text.capitalOctet)).isJson = false := by
  rw [Bool.eq_false_iff, ne_eq, isJson_labelled]
  rintro ⟨_, named⟩
  have letter : 'j' ∈ (octets.map Text.capitalOctet).map Text.octetChar :=
    named.subset List.mem_cons_self
  rw [List.map_map] at letter
  rcases List.mem_map.mp letter with ⟨octet, _, same⟩
  exact Text.octetChar_capitalOctet octet same

theorem namesJson_of_isJson (alike : Text.SpelledAlike octets other)
    (json : (response.labelled other).isJson = true) : NamesJson octets := by
  rcases isJson_labelled.mp json with ⟨visible, named⟩
  rw [NamesJson, alike]
  refine ⟨visible, ?_⟩
  have small := named.map Char.toLower
  rwa [List.map_map] at small

end Response

def SameResult : Except ClientError Body → Except ClientError Body → Prop
  | .ok former, .ok latter => former = latter
  | .error former, .error latter => former.code = latter.code
  | _, _ => False

theorem SameResult.refl (result : Except ClientError Body) : SameResult result result := by
  cases result <;> exact Eq.refl _

theorem SameResult.symm {former latter : Except ClientError Body}
    (same : SameResult former latter) : SameResult latter former := by
  cases former with
  | ok => cases latter with
    | ok => exact Eq.symm same
    | error => exact same
  | error => cases latter with
    | ok => exact same
    | error => exact Eq.symm same

def Mismatched (parsed : Parsed) : Prop :=
  ∃ expected found, .contentTypeMismatch expected found ∈ parsed.warnings

structure Agree (former latter : Parsed) : Prop where
  result : SameResult former.outcome latter.outcome
  warned : Mismatched former ↔ Mismatched latter

namespace Response

def CountedAlike (octets : List UInt8) : Prop :=
  ∃ text json, Text.ofUtf8? octets = some text ∧ Json.ofText? text = some json ∧
    Text.trimmed text.toList ≠ ['-', '0']

theorem unsoundJson_differs (octets : List UInt8) (accept : Accept) :
    ¬SameResult (.error .unsoundJson) (textBody octets accept) := by
  unfold textBody
  split
  · exact (by decide : ¬ClientError.unsoundJson.code = ClientError.unsoundText.code)
  · split
    · dsimp only
      split
      · exact id
      · exact (by decide : ¬"Json" = "InvalidInteger")
    · exact id

theorem counts_agree_iff {document : Json} {trimmed : String} {json text : Option Int} :
    SameResult
        (match json with
        | some i => .ok (.integer i)
        | none => .error (.notAnInteger document.text))
        (match text with
        | some i => .ok (.integer i)
        | none => .error (.notAnInteger trimmed)) ↔ json = text := by
  cases json <;> cases text <;> simp [SameResult, ClientError.code]

theorem bodies_agree_iff {octets : List UInt8} {accept : Accept} :
    SameResult (jsonBody octets accept) (textBody octets accept) ↔
      accept = .integer ∧ CountedAlike octets := by
  cases read : (Text.ofUtf8? octets).bind Json.ofText? with
  | none =>
    have failed : jsonBody octets accept = .error .unsoundJson := by rw [jsonBody, read]
    rw [failed]
    refine iff_of_false (unsoundJson_differs octets accept) ?_
    rintro ⟨_, text, json, decoded, document, _⟩
    rw [decoded, Option.bind_some, document] at read
    cases read
  | some json =>
    rcases Option.bind_eq_some_iff.mp read with ⟨text, decoded, document⟩
    have alike : CountedAlike octets ↔ Text.trimmed text.toList ≠ ['-', '0'] := by
      constructor
      · rintro ⟨_, _, same, _, other⟩
        cases decoded.symm.trans same
        exact other
      · exact fun other => ⟨text, json, decoded, document, other⟩
    rw [alike, ← int64?_eq_readInt64?_iff document, jsonBody, textBody, read, decoded]
    by_cases counted : accept = .integer
    · dsimp only
      rw [if_pos counted, if_pos counted, and_iff_right counted]
      exact counts_agree_iff
    · dsimp only
      rw [if_neg counted, if_neg counted]
      refine iff_of_false ?_ fun both => counted both.1
      intro same
      cases same

variable {response : Response} {expected : Expectation}

theorem mismatched_parse_iff (success : response.status.isSuccess = true) :
    Mismatched (response.parse expected) ↔
      expected.ignoreWarnings = false ∧ response.mismatches expected.accept = true := by
  have warnings : (response.parse expected).warnings =
      (response.warnMismatch expected).warnings := by
    rw [parse_of_success success, warnMismatch]
    split <;> rfl
  rw [Mismatched, warnings, warnMismatch, ← Bool.not_eq_true', ← Bool.and_eq_true]
  split
  · rename_i warned
    exact iff_of_true ⟨_, _, List.mem_cons_self⟩ warned
  · rename_i silent
    refine iff_of_false ?_ silent
    rintro ⟨_, _, member⟩
    cases member

theorem parse_of_failure (failed : response.status.isSuccess = false) (expected : Expectation) :
    response.parse expected = .fail response.statusError := by
  rw [parse, failed]
  rfl

theorem mismatches_congr {response other : Response} {accept : Accept}
    (same : response.isJson = other.isJson) :
    response.mismatches accept = other.mismatches accept := by
  cases accept <;> simp [mismatches, same]

theorem parse_agrees_iff (response : Response) (expected : Expectation)
    (former latter : List UInt8) :
    Agree ((response.labelled former).parse expected) ((response.labelled latter).parse expected) ↔
      (response.status.isSuccess = true →
        (response.labelled former).isJson = (response.labelled latter).isJson ∨
          expected.accept = .integer ∧ CountedAlike response.body) := by
  by_cases success : response.status.isSuccess = true
  · have succeeds (octets : List UInt8) : (response.labelled octets).status.isSuccess = true :=
      success
    have outcome (octets : List UInt8) : ((response.labelled octets).parse expected).outcome =
        (if (response.labelled octets).isJson then jsonBody else textBody) response.body
          expected.accept := outcome_parse (succeeds octets) expected
    rw [forall_prop_of_true success]
    constructor
    · rintro ⟨result, _⟩
      rw [outcome, outcome] at result
      cases json : (response.labelled former).isJson <;>
        cases json' : (response.labelled latter).isJson <;> rw [json, json'] at result
      · exact .inl rfl
      · exact .inr (bodies_agree_iff.mp result.symm)
      · exact .inr (bodies_agree_iff.mp result)
      · exact .inl rfl
    · intro alike
      refine ⟨?_, ?_⟩
      · rw [outcome, outcome]
        rcases alike with same | counted
        · rw [same]
          exact .refl _
        · have bodies := bodies_agree_iff.mpr counted
          split <;> split
          · exact .refl _
          · exact bodies
          · exact bodies.symm
          · exact .refl _
      · rw [mismatched_parse_iff (succeeds former), mismatched_parse_iff (succeeds latter)]
        rcases alike with same | ⟨counted, _⟩
        · rw [mismatches_congr same]
        · rw [counted]
          exact Iff.rfl
  · -- Where the request has failed the content type is not looked at.
    have fails (octets : List UInt8) : (response.labelled octets).status.isSuccess = false :=
      eq_false_of_ne_true success
    refine iff_of_true ?_ fun succeeded => absurd succeeded success
    rw [parse_of_failure (fails former), parse_of_failure (fails latter)]
    exact ⟨Eq.refl _, Iff.rfl⟩

/-- Letters make no difference to a content type exactly if it does not name JSON in any of them,
but for failed requests and counts: any two that name JSON both or neither lead to the same, and
among the spellings of one that names JSON there are some that do and some that do not. -/
theorem parse_ignores_case_iff (response : Response) (expected : Expectation) :
    (∀ former latter, Agree ((response.labelled former).parse expected)
        ((response.labelled latter).parse expected) ↔
      (response.status.isSuccess = true →
        (response.labelled former).isJson = (response.labelled latter).isJson ∨
          expected.accept = .integer ∧ CountedAlike response.body)) ∧
    ∀ octets, (∀ other, Text.SpelledAlike octets other →
        Agree ((response.labelled octets).parse expected)
          ((response.labelled other).parse expected)) ↔
      (response.status.isSuccess = true →
        ¬NamesJson octets ∨ expected.accept = .integer ∧ CountedAlike response.body) := by
  refine ⟨parse_agrees_iff response expected, ?_⟩
  intro octets
  simp only [parse_agrees_iff]
  constructor
  · intro alike success
    by_contra neither
    rw [not_or, not_not] at neither
    have small := (alike _ (Text.spelledAlike_small octets) success).resolve_right neither.2
    have capital := (alike _ (Text.spelledAlike_capital octets) success).resolve_right neither.2
    rw [small, isJson_small neither.1, isJson_capital] at capital
    cases capital
  · intro spared other spelled success
    refine (spared success).imp_left fun nameless => ?_
    have plain {content : List UInt8} (alike : Text.SpelledAlike octets content) :
        (response.labelled content).isJson = false :=
      eq_false_of_ne_true fun json => nameless (namesJson_of_isJson alike json)
    rw [plain (Eq.refl _), plain spelled]

def sampleEntity : Response := ⟨⟨200⟩, none, Text.toUtf8 "\x7b\"Id\":1\x7d"⟩

theorem parse_ignores_case_iff_plain :
    Text.SpelledAlike (Text.toUtf8 "text/plain") (Text.toUtf8 "Text/Plain") ∧
      Agree ((sampleEntity.labelled (Text.toUtf8 "text/plain")).parse ⟨.json, false⟩)
        ((sampleEntity.labelled (Text.toUtf8 "Text/Plain")).parse ⟨.json, false⟩) := by
  have alike : Text.SpelledAlike (Text.toUtf8 "text/plain") (Text.toUtf8 "Text/Plain") := by
    unfold Text.SpelledAlike
    decide +kernel
  have nameless : ¬NamesJson (Text.toUtf8 "text/plain") := by
    rintro ⟨_, named⟩
    have absent : Text.occursIn "json".toList ((Text.toUtf8 "text/plain").map Text.smallChar) =
      false := by decide +kernel
    rw [Text.occursIn_iff.mpr named] at absent
    cases absent
  have spared := (parse_ignores_case_iff sampleEntity ⟨.json, false⟩).2 (Text.toUtf8 "text/plain")
  exact ⟨alike, spared.mpr (fun _ => .inl nameless) _ alike⟩

/-- In capital letters JSON is taken for text, and a warning is given that it is no JSON. -/
theorem json_in_capitals :
    Text.SpelledAlike (Text.toUtf8 "application/json") (Text.toUtf8 "application/JSON") ∧
      (sampleEntity.labelled (Text.toUtf8 "application/json")).parse ⟨.json, false⟩ =
        ⟨[], .ok (.json (.object [("Id", .ofInt 1)]))⟩ ∧
      (sampleEntity.labelled (Text.toUtf8 "application/JSON")).parse ⟨.json, false⟩ =
        ⟨[.contentTypeMismatch "application/json" "application/JSON"],
          .ok (.text "\x7b\"Id\":1\x7d")⟩ ∧
      ¬Agree ((sampleEntity.labelled (Text.toUtf8 "application/json")).parse ⟨.json, false⟩)
        ((sampleEntity.labelled (Text.toUtf8 "application/JSON")).parse ⟨.json, false⟩) := by
  have small : (sampleEntity.labelled (Text.toUtf8 "application/json")).parse ⟨.json, false⟩ =
      ⟨[], .ok (.json (.object [("Id", .ofInt 1)]))⟩ := by with_unfolding_all rfl
  have capital : (sampleEntity.labelled (Text.toUtf8 "application/JSON")).parse ⟨.json, false⟩ =
      ⟨[.contentTypeMismatch "application/json" "application/JSON"],
        .ok (.text "\x7b\"Id\":1\x7d")⟩ := by with_unfolding_all rfl
  refine ⟨?_, small, capital, ?_⟩
  · unfold Text.SpelledAlike
    decide +kernel
  · intro agree
    have result := agree.result
    rw [small, capital] at result
    cases result

end Response
end ODataRequest
