import ODataRequest.Proofs.Literals
namespace ODataRequest

theorem numeral_ne_empty (n : Nat) : numeral n ≠ "" := by
  rw [numeral, Ne, String.ofList_eq_empty_iff]
  exact Nat.toDigits_ne_nil

theorem signedNumeral_ne_empty (i : Int) : signedNumeral i ≠ "" := by
  rw [signedNumeral]
  split
  · simp
  · exact numeral_ne_empty i.natAbs

theorem positional_ne_empty (digits : Nat) (exponent : Int) : positional digits exponent ≠ "" := by
  unfold positional
  split
  · rw [Ne, String.ofList_eq_empty_iff, List.append_eq_nil_iff]
    exact fun empty => Nat.toDigits_ne_nil empty.1
  · simp

theorem signed_ne_empty {text : String} (filled : text ≠ "") (negative : Bool) :
    (if negative then "-" ++ text else text) ≠ "" := by
  cases negative with
  | false => exact filled
  | true => simp

theorem Binary64.plainText_ne_empty (x : Binary64) : x.plainText ≠ "" := by
  unfold plainText
  split
  · decide
  · apply signed_ne_empty
    split
    · decide
    · split
      · decide
      · exact positional_ne_empty _ _

theorem Decimal.text_ne_empty (d : Decimal) : d.text ≠ "" := by
  unfold text
  have body : ∀ magnitude scale count, (if 5 < scale - count then
      scientific "E" magnitude (-scale)
    else if 15 < -scale then numeral magnitude ++ "e+" ++ signedNumeral (-scale)
    else positional magnitude (-scale)) ≠ "" := by
    intro magnitude scale count
    split
    · simp [scientific]
    · split
      · simp
      · exact positional_ne_empty _ _
  simpa using signed_ne_empty (body _ _ _) (decide (d.digits < 0))

theorem Guid.text_ne_empty (guid : Guid) : guid.text ≠ "" := by
  simp [text, Text.joined_cons]

theorem Text.quoted_ne_empty (text : String) : quoted text ≠ "" := by
  simp [quoted]

theorem TypeRef.text_ne_empty (type : TypeRef) : type.text ≠ "" := by
  cases type <;> simp [text]

namespace Value

theorem display_ne_empty (v : Value) : v.display ≠ "" := by
  cases v with
  | bool b => cases b <;> decide
  | int i => exact signedNumeral_ne_empty i
  | float x => exact x.plainText_ne_empty
  | decimal d => exact d.text_ne_empty
  | guid g => exact g.text_ne_empty
  | duration d =>
    simp only [display, Duration.text]
    split <;> simp
  | null => decide
  | _ => simp [display, DateTimeOffset.text, Date.text, TimeOfDay.text]

end Value

namespace Literal

variable {schema : Schema} {value : Value} {type : TypeRef} {name text : String}

theorem floatText_ne_empty (x : Binary64) : floatText x ≠ "" := by
  unfold floatText
  split
  · decide
  · split
    · split <;> decide
    · exact x.plainText_ne_empty

theorem primitive?_ne_empty (written : primitive? name value = some text) : text ≠ "" := by
  unfold primitive? at written
  split at written
  case h_9 =>
    obtain ⟨guid, _, rfl⟩ := Option.map_eq_some_iff.mp written
    exact guid.text_ne_empty
  case h_15 =>
    obtain ⟨_, written⟩ := Option.ite_none_right_eq_some.mp written
    exact Option.some.inj written ▸ signedNumeral_ne_empty _
  case h_16 =>
    obtain ⟨_, written⟩ := Option.ite_none_right_eq_some.mp written
    exact Option.some.inj written ▸ Decimal.text_ne_empty _
  case h_17 => cases written
  all_goals rw [← Option.some.inj written]
  case h_1 | h_2 | h_3 => exact Text.quoted_ne_empty _
  case h_4 => exact Value.display_ne_empty _
  case h_5 | h_6 | h_7 => exact floatText_ne_empty _
  case h_8 => exact Guid.text_ne_empty _
  all_goals simp [DateTimeOffset.text, Date.text, TimeOfDay.text]

theorem enumMember?_ne_empty {e : EnumType} (written : enumMember? e value = some text) :
    text ≠ "" := by
  unfold enumMember? at written
  split at written
  case h_4 => cases written
  case h_3 =>
    cases written
    simp
  all_goals
    split at written
    · cases written
      simp
    · cases written

theorem kind_ne_raw (sealed : type.isRaw = false) : schema.kind type ≠ .ok .raw := by
  cases type with
  | collection element => simp [Schema.kind]
  | named scope name =>
    have other : scope ≠ rawScope := by simpa [TypeRef.isRaw] using sealed
    rw [Schema.kind, if_neg other]
    split
    · simp
    · split <;> simp

theorem getD_ne_empty {found : Option String} {e : Error}
    (each : ∀ literal, found = some literal → literal ≠ "")
    (written : (found.map pure).getD (.error e) = (.ok text : Except Error String)) :
    text ≠ "" := by
  cases found with
  | none => cases written
  | some literal =>
    cases written
    exact each _ rfl

theorem scalar_ne_empty (sealed : type.innermost.isRaw = false)
    (written : scalar schema value type = .ok text) : text ≠ "" := by
  unfold scalar at written
  obtain ⟨kind, resolved, written⟩ := bind_eq_ok.mp written
  cases kind with
  | raw => exact absurd resolved (kind_ne_raw sealed)
  | primitive =>
    cases named : type.innermost with
    | collection element =>
      rw [named] at written
      cases written
    | named scope name =>
      rw [named] at written
      exact getD_ne_empty (fun _ => primitive?_ne_empty) written
  | enum e => exact getD_ne_empty (fun _ => enumMember?_ne_empty) written
  | complex c => cases written

theorem isRaw_defaultType (typed : value.isTyped = true) :
    value.defaultType.innermost.isRaw = false := by
  cases value with
  | null | raw | list => cases typed
  | _ => rfl

/-- A value that is not raw text, as a type that is not raw. -/
theorem serialize_ne_empty (spelled : ∀ text, value ≠ .raw text)
    (sealed : value.isTyped = true → type.innermost.isRaw = false)
    (written : serialize schema value type = .ok text) : text ≠ "" := by
  cases typed : value.isTyped with
  | true =>
    rw [serialize_typed typed] at written
    exact scalar_ne_empty (sealed typed) written
  | false =>
    cases value with
    | null =>
      cases written
      decide
    | raw text => exact absurd rfl (spelled text)
    | list items =>
      obtain ⟨_, literals, _, rfl⟩ := serialize_list_eq_ok.mp written
      simp [listText]
    | _ => cases typed

end Literal
end ODataRequest
