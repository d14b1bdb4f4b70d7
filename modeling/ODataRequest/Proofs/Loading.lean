import Mathlib.Data.List.Nodup
import ODataRequest.Proofs.DerivedTypes
namespace ODataRequest

theorem insertType_perm {added : SchemaType} {types : List SchemaType}
    (new : added.address ∉ types.map SchemaType.address) :
    (insertType added types).Perm (added :: types) := by
  induction types with
  | nil => exact .refl _
  | cons head rest ih =>
    rw [List.map_cons, List.mem_cons, not_or] at new
    unfold insertType
    split
    · exact .refl _
    split
    · exact ((ih new.2).cons head).trans (.swap added head rest)
    · rename_i low high
      rcases SchemaType.same_of_not_before low high with ⟨scopes, names⟩
      exact absurd (Prod.ext scopes names) new.1

namespace Schema

variable {schema other : Schema} {types others : List SchemaType}

theorem eq_of_perm (same : schema.types.Perm other.types) : schema = other := by
  have listed : schema.types = other.types := by
    apply List.Perm.eq_of_pairwise _ schema.ordered other.ordered same
    intro t u _ _ before after
    exact absurd rfl (SchemaType.address_ne_of_before (before.trans after))
  cases schema
  cases other
  cases listed
  rfl

theorem types_foldl_insert (distinct : ((types ++ schema.types).map SchemaType.address).Nodup) :
    (types.foldl insert schema).types.Perm (types ++ schema.types) := by
  induction types generalizing schema with
  | nil => exact .refl _
  | cons head rest ih =>
    have new : head.address ∉ schema.types.map SchemaType.address := by
      intro present
      rw [List.cons_append, List.map_cons, List.nodup_cons, List.map_append] at distinct
      exact distinct.1 (List.mem_append_right _ present)
    have added : (rest ++ (schema.insert head).types).Perm (head :: rest ++ schema.types) :=
      ((insertType_perm new).append_left rest).trans List.perm_middle
    exact (ih ((added.map _).nodup_iff.mpr distinct)).trans added

/-- The types of a list in one schema, not validated yet. -/
def gathered (types : List SchemaType) : Schema := types.foldl insert empty

theorem types_gathered (distinct : (types.map SchemaType.address).Nodup) :
    (gathered types).types.Perm types := by
  have nothing : types ++ empty.types = types := List.append_nil types
  have held : (gathered types).types.Perm (types ++ empty.types) :=
    types_foldl_insert (nothing.symm ▸ distinct)
  rwa [nothing] at held

theorem gathered_perm (distinct : (types.map SchemaType.address).Nodup)
    (reordered : others.Perm types) : gathered others = gathered types := by
  have distinct' := (reordered.map SchemaType.address).nodup_iff.mpr distinct
  have held : (gathered others).types.Perm types := (types_gathered distinct').trans reordered
  exact eq_of_perm (held.trans (types_gathered distinct).symm)

theorem gathered_types (schema : Schema) : gathered schema.types = schema :=
  eq_of_perm (types_gathered schema.nodup_addresses)

theorem ofTypes_eq (types : List SchemaType) :
    ofTypes types = ((gathered types).validate >>= fun _ => pure (gathered types)) := rfl

theorem ofTypes_eq_ok :
    ofTypes types = .ok schema ↔ gathered types = schema ∧ schema.validate = .ok () := by
  rw [ofTypes_eq, bind_eq_ok]
  constructor
  · rintro ⟨_, valid, same⟩
    cases same
    exact ⟨rfl, valid⟩
  · rintro ⟨rfl, valid⟩
    exact ⟨(), valid, rfl⟩

/-- No order of the listed types shows in what is loaded, be it a schema or an error. A schema that
was loaded has the listed types, and its types load as that schema again. -/
theorem ofTypes_of_distinct (distinct : (types.map SchemaType.address).Nodup) :
    (∀ others : List SchemaType, others.Perm types → ofTypes others = ofTypes types) ∧
      ∀ schema, ofTypes types = .ok schema →
        schema.types.Perm types ∧ ofTypes schema.types = .ok schema := by
  constructor
  · intro others reordered
    rw [ofTypes_eq, ofTypes_eq, gathered_perm distinct reordered]
  · intro schema loaded
    rcases ofTypes_eq_ok.mp loaded with ⟨rfl, valid⟩
    exact ⟨types_gathered distinct, ofTypes_eq_ok.mpr ⟨gathered_types _, valid⟩⟩

end Schema

namespace Fleet

def derivedFirst : List SchemaType := [.complex tanker, .complex truck, .complex vehicle]

def basesFirst : List SchemaType := [.complex vehicle, .complex truck, .complex tanker]

theorem ofTypes_basesFirst : Schema.ofTypes basesFirst = .ok schema := by with_unfolding_all rfl

end Fleet

theorem Schema.ofTypes_of_distinct_fleet :
    (Fleet.basesFirst.map SchemaType.address).Nodup ∧
      Fleet.derivedFirst.Perm Fleet.basesFirst ∧ ofTypes Fleet.derivedFirst = .ok Fleet.schema ∧
      Fleet.schema.types.Perm Fleet.basesFirst ∧
      ofTypes Fleet.schema.types = .ok Fleet.schema := by
  have distinct : (Fleet.basesFirst.map SchemaType.address).Nodup := by decide
  have reordered : Fleet.derivedFirst.Perm Fleet.basesFirst := by decide
  rcases ofTypes_of_distinct distinct with ⟨unordered, reloads⟩
  rcases reloads Fleet.schema Fleet.ofTypes_basesFirst with ⟨held, again⟩
  refine ⟨distinct, reordered, ?_, held, again⟩
  rw [unordered Fleet.derivedFirst reordered, Fleet.ofTypes_basesFirst]

end ODataRequest
