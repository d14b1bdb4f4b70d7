import ODataRequest.Proofs.Evaluation
import ODataRequest.Proofs.Literals
import Mathlib.Data.List.Perm.Basic
namespace ODataRequest

/-!
Lists without a declared type. Every item is written as a value of the type of the first one. Only
the type of strings and raw text have spellings of their own, so an item has the same literal
whichever item comes first, unless one of these two types comes in.
-/

namespace Text

theorem length_doubleQuotes (chars : List Char) : chars.length ≤ (doubleQuotes chars).length := by
  induction chars using doubleQuotes.induct with
  | case1 => exact Nat.le_refl _
  | case2 rest ih =>
    simp only [doubleQuotes, List.length_cons]
    omega
  | case3 char rest other ih =>
    rw [doubleQuotes]
    · simpa using ih
    · exact other

theorem quoted_ne_self (text : String) : quoted text ≠ text := by
  intro same
  have lengths := congrArg (fun text => text.toList.length) same
  have longer := length_doubleQuotes text.toList
  simp only [quoted, String.toList_ofList, List.cons_append, List.length_cons,
    List.length_append] at lengths
  omega

theorem head?_quoted (text : String) : (quoted text).toList.head? = some '\'' := by
  simp [quoted]

end Text

section Pairs

variable {α β : Type} {items items' : List α} {f g : α → β}

theorem map_pair_perm_iff (permuted : items.Perm items') :
    (items.map fun a => (a, f a)).Perm (items'.map fun a => (a, g a)) ↔
      ∀ a ∈ items, f a = g a := by
  constructor
  · intro same a member
    have paired : (a, f a) ∈ items'.map fun a => (a, g a) :=
      same.mem_iff.mp (List.mem_map.mpr ⟨a, member, rfl⟩)
    obtain ⟨b, _, both⟩ := List.mem_map.mp paired
    obtain ⟨rfl, written⟩ := Prod.mk.inj both
    exact written.symm
  · intro each
    have equal : (items.map fun a => (a, f a)) = items.map fun a => (a, g a) :=
      List.map_congr_left fun a member => by rw [each a member]
    rw [equal]
    exact permuted.map _

end Pairs

namespace Literal

variable {schema : Schema} {value : Value} {type type' : TypeRef} {name name' text text' : String}
  {items items' : List Value} {literals literals' : List String}

/-- The literal that a value has as every type but that of strings, if it has one. -/
def own? : Value → Option String
  | .float x => some (floatText x)
  | .string s => (Guid.ofText? s).map Guid.text
  | .duration d => some ("duration'" ++ d.literalText ++ "'")
  | .binary octets => some ("binary'" ++ String.ofList (Text.base64 octets) ++ "'")
  | .null | .member _ | .list _ | .raw _ => none
  | value => some value.display

theorem own_of_primitive (other : name ≠ "String") (written : primitive? name value = some text) :
    own? value = some text := by
  unfold primitive? at written
  split at written
  all_goals simp_all [own?, Value.display]

theorem literal_unique (other : name ≠ "String") (other' : name' ≠ "String")
    (single : value.isList = false)
    (written : serialize schema value (.edm name) = .ok text)
    (written' : serialize schema value (.edm name') = .ok text') : text = text' := by
  cases value with
  | list items => cases single
  | null | raw _ => exact Except.ok.inj (written.symm.trans written')
  | _ =>
    rw [serialize_edm_eq_ok rfl] at written written'
    have same := (own_of_primitive other written).symm.trans (own_of_primitive other' written')
    exact Option.some.inj same

theorem defaultType_cases (single : value.isList = false) :
    value.defaultType = .raw ∨ ∃ name, value.defaultType = .edm name := by
  cases value with
  | list items => cases single
  | raw text => exact .inl rfl
  | _ => exact .inr ⟨_, rfl⟩

theorem exists_other_name (single : value.isList = false) (noRaw : value.defaultType ≠ .raw)
    (noString : value.defaultType ≠ .string) :
    ∃ name, name ≠ "String" ∧ value.defaultType = .edm name := by
  obtain ⟨name, typed⟩ := (defaultType_cases single).resolve_left noRaw
  refine ⟨name, fun same => noString ?_, typed⟩
  rw [typed, same]
  rfl

theorem display_ne_quoted_float (x : Binary64) :
    floatText x ≠ Text.quoted (Value.float x).display := by
  intro same
  -- Only infinity has a literal that is not its text in messages.
  by_cases infinite : x.isNaN = false ∧ x.isInfinite = true
  · have start := Text.head?_quoted (Value.float x).display
    rw [← same, floatText, infinite.1, infinite.2] at start
    cases sign : x.negative <;> simp [sign] at start
  · have shown : floatText x = (Value.float x).display := by
      cases number : x.isNaN with
      | true => simp [floatText, Value.display, Binary64.plainText, number]
      | false => simp_all [floatText, Value.display]
    exact Text.quoted_ne_self _ (same.symm.trans shown)

/-- Taken for a string a value is quoted, which its own literal never is. -/
theorem own_ne_quoted (own : own? value = some text) (plain : value.defaultType ≠ .string) :
    text ≠ Text.quoted value.display := by
  cases value with
  | string s => exact absurd rfl plain
  | null | member _ | list _ | raw _ => cases own
  | float x =>
    cases own
    exact display_ne_quoted_float x
  | duration d | binary octets =>
    cases own
    intro same
    have start := congrArg (fun text => text.toList.head?) same
    simp [Text.head?_quoted] at start
  | _ =>
    rw [← Option.some.inj own]
    exact (Text.quoted_ne_self _).symm

theorem own_literal_ne_string (single : value.isList = false) (noRaw : value.defaultType ≠ .raw)
    (noString : value.defaultType ≠ .string)
    (written : serialize schema value value.defaultType = .ok text) :
    serialize schema value value.defaultType ≠ serialize schema value .string := by
  obtain ⟨name, other, typed⟩ := exists_other_name single noRaw noString
  rw [typed] at written ⊢
  rw [written]
  cases value with
  | list items => cases single
  | raw _ => exact absurd rfl noRaw
  | null | string _ | member _ => exact absurd rfl noString
  | _ =>
    rw [serialize_edm_eq_ok rfl] at written
    intro same
    have quoted := (serialize_edm_eq_ok rfl).mp same.symm
    exact own_ne_quoted (own_of_primitive other written) noString (Option.some.inj quoted).symm

theorem exists_write (written : serializeItems schema items type = .ok literals) :
    ∃ write : Value → String,
      (∀ item ∈ items, serialize schema item type = .ok (write item)) ∧
        literals = items.map write := by
  choose! write each using exists_literal written
  exact ⟨write, each, Except.ok.inj (written.symm.trans (serializeItems_map each))⟩

theorem zip_perm_iff (permuted : items.Perm items')
    (written : serializeItems schema items type = .ok literals)
    (written' : serializeItems schema items' type' = .ok literals') :
    (items.zip literals).Perm (items'.zip literals') ↔
      ∀ item ∈ items, serialize schema item type = serialize schema item type' := by
  obtain ⟨write, each, rfl⟩ := exists_write written
  obtain ⟨write', each', rfl⟩ := exists_write written'
  rw [← List.map_prod_left_eq_zip, ← List.map_prod_left_eq_zip, map_pair_perm_iff permuted]
  refine forall₂_congr fun item member => ?_
  rw [each item member, each' item (permuted.subset member), Except.ok.injEq]

theorem outcome_render_constant (schema : Schema) (value : Value) :
    ((Renderer.standard schema).render (.constant value)).outcome =
      serialize schema value value.defaultType := by
  rw [Renderer.render, Expr.constant, Renderer.evaluate_value]
  cases written : serialize schema value value.defaultType with
  | error e => simp [Renderer.standard, written, bind, Traced.bind, Traced.ofExcept]
  | ok text =>
    simp [Renderer.standard, written, bind, Traced.bind, Traced.ofExcept, pure,
      Rendering.ofText, Rendering.textOrEmpty]

theorem render_list_eq_ok {first : Value} {rest : List Value} (single : first.isList = false) :
    ((Renderer.standard schema).render (.constant (.list (first :: rest)))).outcome = .ok text ↔
      ∃ literals, serializeItems schema (first :: rest) first.defaultType = .ok literals ∧
        text = listText literals := by
  have flat : first.defaultType.isCollection = false := by
    rcases defaultType_cases single with raw | ⟨name, typed⟩
    · rw [raw]
      rfl
    · rw [typed]
      rfl
  rw [outcome_render_constant, serialize_list_eq_ok]
  exact and_iff_right flat

/-- Two types that items of the list bring in give all items the same literals exactly if both or
none of them are the type of strings. -/
theorem same_literals_iff {first first' : Value} (flat : ∀ item ∈ items, item.isList = false)
    (present : first ∈ items) (present' : first' ∈ items)
    (written : ∀ item ∈ items, ∃ text, serialize schema item first.defaultType = .ok text)
    (written' : ∀ item ∈ items, ∃ text, serialize schema item first'.defaultType = .ok text)
    (alike : first.defaultType = .raw ↔ first'.defaultType = .raw) :
    (∀ item ∈ items,
        serialize schema item first.defaultType = serialize schema item first'.defaultType) ↔
      (first.defaultType = .string ↔ first'.defaultType = .string) := by
  by_cases raw : first.defaultType = .raw
  · simp [raw, alike.mp raw]
  have raw' : first'.defaultType ≠ .raw := fun held => raw (alike.mpr held)
  -- If just one type is that of strings, the item that the other comes from tells them apart.
  by_cases string : first.defaultType = .string
  · by_cases string' : first'.defaultType = .string
    · simp [string, string']
    · obtain ⟨text, own⟩ := written' first' present'
      have differ := own_literal_ne_string (flat first' present') raw' string' own
      refine iff_of_false (fun same => differ ?_) (by simp [string, string'])
      rw [← same first' present', string]
  · by_cases string' : first'.defaultType = .string
    · obtain ⟨text, own⟩ := written first present
      have differ := own_literal_ne_string (flat first present) raw string own
      refine iff_of_false (fun same => differ ?_) (by simp [string, string'])
      rw [same first present, string']
    · refine iff_of_true (fun item member => ?_) (by simp [string, string'])
      obtain ⟨name, other, typed⟩ := exists_other_name (flat first present) raw string
      obtain ⟨name', other', typed'⟩ := exists_other_name (flat first' present') raw' string'
      obtain ⟨text, one⟩ := written item member
      obtain ⟨text', one'⟩ := written' item member
      have same := literal_unique other other' (flat item member) (typed ▸ one) (typed' ▸ one')
      rw [one, one', same]

/-- In a list without declared type all items are written as values of the type of the first one.
After a permutation of the items each has its own literal again exactly if the type of the new
first item gives all of them the literals that the type of the old one gives them. Unless just
one of the two lists starts with raw text, this is so exactly if both or none of them start with an
item that is taken for a string: null, a string or a member of an enumeration. -/
theorem untyped_lists_agree_iff (schema : Schema) {first first' : Value} {rest rest' : List Value}
    {text text' : String} (flat : ∀ item ∈ first :: rest, item.isList = false)
    (permuted : (first :: rest).Perm (first' :: rest'))
    (rendered : ((Renderer.standard schema).render
      (.constant (.list (first :: rest)))).outcome = .ok text)
    (rendered' : ((Renderer.standard schema).render
      (.constant (.list (first' :: rest')))).outcome = .ok text') :
    ∃ literals literals',
      serializeItems schema (first :: rest) first.defaultType = .ok literals ∧
      serializeItems schema (first' :: rest') first'.defaultType = .ok literals' ∧
      text = listText literals ∧ text' = listText literals' ∧
      (((first :: rest).zip literals).Perm ((first' :: rest').zip literals') ↔
        ∀ item ∈ first :: rest,
          serialize schema item first.defaultType = serialize schema item first'.defaultType) ∧
      ((first.defaultType = .raw ↔ first'.defaultType = .raw) →
        (((first :: rest).zip literals).Perm ((first' :: rest').zip literals') ↔
          (first.defaultType = .string ↔ first'.defaultType = .string))) := by
  have present' : first' ∈ first :: rest := permuted.mem_iff.mpr List.mem_cons_self
  obtain ⟨literals, written, shown⟩ :=
    (render_list_eq_ok (flat first List.mem_cons_self)).mp rendered
  obtain ⟨literals', written', shown'⟩ := (render_list_eq_ok (flat first' present')).mp rendered'
  have agree := zip_perm_iff permuted written written'
  refine ⟨literals, literals', written, written', shown, shown', agree, fun alike => ?_⟩
  rw [agree]
  have each' : ∀ item ∈ first :: rest,
      ∃ literal, serialize schema item first'.defaultType = .ok literal :=
    fun item member => exists_literal written' item (permuted.subset member)
  exact same_literals_iff flat List.mem_cons_self present' (exists_literal written) each' alike

theorem untyped_lists_agree_iff_numbers :
    ((Renderer.standard .empty).render
      (.constant (.list [.int 1, .decimal ⟨25, 1⟩]))).outcome = .ok "(1,2.5)" ∧
    ((Renderer.standard .empty).render
      (.constant (.list [.decimal ⟨25, 1⟩, .int 1]))).outcome = .ok "(2.5,1)" ∧
    ∀ item ∈ [.int 1, .decimal ⟨25, 1⟩],
      serialize .empty item .int64 = serialize .empty item (.edm "Decimal") := by
  have rendered : ((Renderer.standard .empty).render
      (.constant (.list [.int 1, .decimal ⟨25, 1⟩]))).outcome = .ok "(1,2.5)" := by
    rw [outcome_render_constant]
    rfl
  have rendered' : ((Renderer.standard .empty).render
      (.constant (.list [.decimal ⟨25, 1⟩, .int 1]))).outcome = .ok "(2.5,1)" := by
    rw [outcome_render_constant]
    rfl
  refine ⟨rendered, rendered', ?_⟩
  have flat : ∀ item ∈ [Value.int 1, .decimal ⟨25, 1⟩], item.isList = false := by
    simp [Value.isList]
  obtain ⟨_, _, _, _, _, _, each, agree⟩ :=
    untyped_lists_agree_iff .empty flat (.swap _ _ _) rendered rendered'
  exact each.mp ((agree (by decide)).mpr (by decide))

theorem render_one_null :
    ((Renderer.standard .empty).render (.constant (.list [.int 1, .null]))).outcome =
      .ok (listText ["1", "null"]) := by
  rw [outcome_render_constant]
  rfl

theorem render_null_one :
    ((Renderer.standard .empty).render (.constant (.list [.null, .int 1]))).outcome =
      .ok (listText ["null", "'1'"]) := by
  rw [outcome_render_constant]
  rfl

/-- Behind null a number is written as a string. -/
theorem number_behind_null :
    ¬∀ (schema : Schema) (first first' : Value) (rest rest' : List Value)
      (literals literals' : List String),
      (∀ item ∈ first :: rest, item.isList = false) →
      (first :: rest).Perm (first' :: rest') →
      serializeItems schema (first :: rest) first.defaultType = .ok literals →
      serializeItems schema (first' :: rest') first'.defaultType = .ok literals' →
      ((Renderer.standard schema).render (.constant (.list (first :: rest)))).outcome =
        .ok (listText literals) →
      ((Renderer.standard schema).render (.constant (.list (first' :: rest')))).outcome =
        .ok (listText literals') →
      ((first :: rest).zip literals).Perm ((first' :: rest').zip literals') := by
  intro agree
  have flat : ∀ item ∈ [Value.int 1, .null], item.isList = false := by simp [Value.isList]
  have same := agree .empty (.int 1) .null [.null] [.int 1] ["1", "null"] ["null", "'1'"] flat
    (.swap _ _ _) rfl rfl render_one_null render_null_one
  have member : (Value.int 1, "1") ∈ [(.null, "null"), (Value.int 1, "'1'")] :=
    same.subset List.mem_cons_self
  simp at member

end Literal
end ODataRequest
