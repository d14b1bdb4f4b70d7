import Mathlib.Data.List.Nodup
import ODataRequest.Proofs.Outcomes
import ODataRequest.Schema.Basic
namespace ODataRequest

/-!
What references to types lead to. Scope and name tell the types of a schema apart, so a reference
leads to a type exactly if it is declared under these, outside the scopes that need no declarations.
-/

def SchemaType.address (t : SchemaType) : String × String := (t.scope, t.name)

theorem SchemaType.address_ne_of_before {t u : SchemaType} (before : t.Before u) :
    t.address ≠ u.address := by
  intro same
  rcases Prod.mk.inj same with ⟨scopes, names⟩
  rcases before with before | ⟨_, before⟩
  · exact String.ne_of_lt before scopes
  · exact String.ne_of_lt before names

namespace Schema

variable {schema : Schema} {c d : ComplexType}

theorem nodup_addresses (schema : Schema) : (schema.types.map SchemaType.address).Nodup :=
  List.pairwise_map.mpr (schema.ordered.imp SchemaType.address_ne_of_before)

theorem eq_of_same_address {t u : SchemaType} (declared : t ∈ schema.types)
    (declared' : u ∈ schema.types) (same : t.address = u.address) : t = u :=
  List.inj_on_of_nodup_map schema.nodup_addresses declared declared' same

theorem mem_complexTypes : c ∈ schema.complexTypes ↔ .complex c ∈ schema.types := by
  unfold complexTypes
  rw [List.mem_filterMap]
  constructor
  · rintro ⟨t, member, same⟩
    cases t with
    | complex d =>
      cases same
      exact member
    | enum e => cases same
  · intro member
    exact ⟨_, member, rfl⟩

theorem get?_eq_some_iff {scope name : String} {t : SchemaType} :
    schema.get? scope name = some t ↔ t ∈ schema.types ∧ t.scope = scope ∧ t.name = name := by
  refine ⟨get?_mem, ?_⟩
  rintro ⟨member, rfl, rfl⟩
  cases found : schema.get? t.scope t.name with
  | none =>
    have absent := List.find?_eq_none.mp found t member
    simp at absent
  | some u =>
    rcases get?_mem found with ⟨member', scopes, names⟩
    rw [eq_of_same_address member' member (Prod.ext scopes names)]

theorem kind_eq_complex {type : TypeRef} :
    schema.kind type = .ok (.complex d) ↔
      type = d.type ∧ d ∈ schema.complexTypes ∧ d.scope ≠ edmScope ∧ d.scope ≠ rawScope := by
  constructor
  · intro resolved
    cases type with
    | collection element => cases resolved
    | named scope name =>
      rw [kind] at resolved
      split at resolved
      · cases resolved
      split at resolved
      · cases resolved
      split at resolved
      · rename_i edm raw _ c found
        cases resolved
        rcases get?_mem found with ⟨member, rfl, rfl⟩
        exact ⟨rfl, mem_complexTypes.mpr member, edm, raw⟩
      · cases resolved
      · cases resolved
  · rintro ⟨rfl, declared, edm, raw⟩
    have found : schema.get? d.scope d.name = some (.complex d) :=
      get?_eq_some_iff.mpr ⟨mem_complexTypes.mp declared, rfl, rfl⟩
    rw [ComplexType.type, kind, if_neg edm, if_neg raw, found]

theorem complex_eq_ok {type : TypeRef} :
    schema.complex type = .ok d ↔ schema.kind type = .ok (.complex d) := by
  constructor
  · intro resolved
    unfold complex at resolved
    split at resolved
    · rename_i c found
      cases resolved
      exact found
    · cases resolved
    · cases resolved
  · intro found
    rw [complex, found]

theorem kind_named_fails (schema : Schema) (scope name : String) :
    Yields (schema.kind (.named scope name)) (fun _ => True)
      fun e => e = .unknownType (TypeRef.named scope name).text := by
  rw [kind]
  split
  · exact Yields.ok trivial
  split
  · exact Yields.ok trivial
  split
  · exact Yields.ok trivial
  · exact Yields.ok trivial
  · exact Yields.error rfl

end Schema
end ODataRequest
