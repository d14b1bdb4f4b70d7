import ODataRequest.Schema.Cast
import ODataRequest.Proofs.References
namespace ODataRequest

/-!
Casts by full name. Where no declared name holds a dot, caster names hold none either, so the full
name of a derived type is never taken for a caster name and leads back to the type it came from.
-/

theorem Table.mem_of_get? {α : Type} {table : Table α} {name : String} {value : α}
    (found : table.get? name = some value) : (name, value) ∈ table.entries :=
  mem_of_lookupNamed found

theorem Table.mem_of_mem_ofList {α : Type} {entries : List (String × α)} {entry : String × α}
    (member : entry ∈ (Table.ofList entries).entries) : entry ∈ entries := by
  have general : ∀ (entries : List (String × α)) (start : Table α),
      entry ∈ (entries.foldl (fun table e => table.insert e.1 e.2) start).entries →
        entry ∈ start.entries ∨ entry ∈ entries := by
    intro entries
    induction entries with
    | nil => exact fun start member => .inl member
    | cons head rest ih =>
      intro start member
      rcases ih _ member with member | member
      · rcases mem_insertNamed member with rfl | member
        · exact .inr (.head _)
        · exact .inl member
      · exact .inr (.tail _ member)
  rcases general entries .empty member with member | member
  · exact absurd member (by simp [Table.empty])
  · exact member

theorem dotted_injective {scope scope' name name' : List Char}
    (plain : '.' ∉ name) (plain' : '.' ∉ name')
    (same : scope ++ '.' :: name = scope' ++ '.' :: name') : scope = scope' ∧ name = name' := by
  rcases List.append_eq_append_iff.mp same with ⟨more, left, right⟩ | ⟨more, left, right⟩
  all_goals
    cases more with
    | nil => simp_all
    | cons char rest =>
      simp only [List.cons_append, List.cons.injEq] at right
      simp [right.2] at plain plain'

namespace Text

theorem not_mem_replaceFrom {mark replacement char : Char} (other : char ≠ replacement)
    (chars : List Char) (held : char = mark ∨ char ∉ chars) :
    char ∉ replaceFrom [mark] [replacement] 0 chars := by
  rw [replaceFrom_char]
  intro member
  rcases List.mem_map.mp member with ⟨head, present, written⟩
  split at written
  · exact other written.symm
  · rename_i differs
    cases written
    rcases held with same | absent
    · exact differs same
    · exact absent present

end Text

namespace Schema

/-- No declared type has a dot in its name; scopes may hold dots. -/
def PlainNames (schema : Schema) : Prop := ∀ t ∈ schema.types, '.' ∉ t.name.toList

theorem PlainNames.complex {schema : Schema} (plain : schema.PlainNames) {c : ComplexType}
    (declared : c ∈ schema.complexTypes) : '.' ∉ c.name.toList :=
  plain _ (mem_complexTypes.mp declared)

theorem derivedTypes_declared {schema : Schema} {c d : ComplexType}
    (derived : d ∈ schema.derivedTypes c) : d ∈ schema.complexTypes :=
  (List.mem_filter.mp derived).1

theorem mem_casters {schema : Schema} {c : ComplexType} {entry : String × TypeRef}
    (member : entry ∈ (schema.casters c).entries) :
    ∃ d ∈ schema.derivedTypes c, entry = (schema.casterName d, d.type) := by
  obtain ⟨d, derived, same⟩ := List.mem_map.mp (Table.mem_of_mem_ofList member)
  exact ⟨d, derived, same.symm⟩

theorem casterName_plain {schema : Schema} (plain : schema.PlainNames) {c : ComplexType}
    (declared : c ∈ schema.complexTypes) : '.' ∉ (schema.casterName c).toList := by
  have named := plain.complex declared
  simp only [casterName]
  split
  · have replaced : '.' ∉ Text.replaceFrom ['.'] ['_'] 0 c.scope.toList :=
      Text.not_mem_replaceFrom (by decide) _ (.inl rfl)
    simpa [Text.replaceAll, named] using replaced
  · exact named

theorem resolveCast_values {schema : Schema} {c : ComplexType} {target : String} {type : TypeRef}
    (resolved : schema.resolveCast c target = .ok type) : type ∈ (schema.casters c).values := by
  simp only [resolveCast] at resolved
  split at resolved
  · rename_i found
    simp only [Except.ok.injEq] at resolved
    exact List.mem_map.mpr ⟨_, Table.mem_of_get? found, resolved⟩
  · split at resolved
    · rename_i found
      simp only [Except.ok.injEq] at resolved
      exact resolved ▸ List.mem_of_find?_eq_some found
    · simp at resolved

theorem values_derived {schema : Schema} {c : ComplexType} {type : TypeRef}
    (member : type ∈ (schema.casters c).values) :
    ∃ d ∈ schema.derivedTypes c, type = d.type := by
  obtain ⟨entry, listed, same⟩ := List.mem_map.mp member
  obtain ⟨d, derived, split⟩ := mem_casters listed
  exact ⟨d, derived, by rw [← same, split]⟩

theorem resolveCast_derived {schema : Schema} {c : ComplexType} {target : String} {type : TypeRef}
    (resolved : schema.resolveCast c target = .ok type) :
    ∃ d ∈ schema.derivedTypes c, type = d.type :=
  values_derived (resolveCast_values resolved)

theorem type_text_injective {c d : ComplexType} (plain : '.' ∉ c.name.toList)
    (plain' : '.' ∉ d.name.toList) (same : c.type.text = d.type.text) : c.type = d.type := by
  have chars := congrArg String.toList same
  simp only [ComplexType.type, TypeRef.text, String.toList_append] at chars
  have dot : ".".toList = ['.'] := rfl
  rw [dot, List.append_assoc, List.append_assoc] at chars
  obtain ⟨scopes, names⟩ := dotted_injective plain plain' chars
  rw [ComplexType.type, ComplexType.type, String.toList_injective scopes,
    String.toList_injective names]

theorem resolveCast_text {schema : Schema} (plain : schema.PlainNames) {c : ComplexType}
    {target : String} {type : TypeRef} (resolved : schema.resolveCast c target = .ok type) :
    schema.resolveCast c type.text = .ok type := by
  obtain ⟨d, derived, rfl⟩ := resolveCast_derived resolved
  have named : (schema.casters c).get? d.type.text = none := by
    cases found : (schema.casters c).get? d.type.text with
    | none => rfl
    | some other =>
      obtain ⟨b, inner, same⟩ := mem_casters (Table.mem_of_get? found)
      have plainName := casterName_plain plain (derivedTypes_declared inner)
      have named : schema.casterName b = d.type.text := (congrArg Prod.fst same).symm
      exact absurd (named ▸ plainName) (by simp [ComplexType.type, TypeRef.text])
  have listed := resolveCast_values resolved
  unfold resolveCast
  simp only [named]
  split
  · rename_i other found
    have texts := List.find?_some found
    obtain ⟨b, inner, rfl⟩ := values_derived (List.mem_of_find?_eq_some found)
    have same := type_text_injective (plain.complex (derivedTypes_declared inner))
      (plain.complex (derivedTypes_declared derived)) (by simpa using texts)
    rw [same]
  · rename_i missing
    exact absurd (List.find?_eq_none.mp missing _ listed) (by simp)

end Schema
end ODataRequest
