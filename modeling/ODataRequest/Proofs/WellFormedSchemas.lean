import ODataRequest.Proofs.PropertyLists
namespace ODataRequest.Schema

/-!
What validation accepts. A schema is well-formed if every complex type has a lineage in which no
property name is declared twice, the types of all properties along it are known, and the names of
its own key are among them. Validation accepts these schemas and no others.
-/

variable {schema : Schema} {c : ComplexType}

def Known (schema : Schema) : TypeRef → Prop
  | .named scope name =>
    scope = edmScope ∨ scope = rawScope ∨ ∃ t ∈ schema.types, t.scope = scope ∧ t.name = name
  | .collection _ => False

theorem exists_kind_iff {type : TypeRef} :
    (∃ kind, schema.kind type = .ok kind) ↔ schema.Known type := by
  cases type with
  | collection element => simp [kind, Known]
  | named scope name =>
    rw [kind, Known]
    split
    · rename_i edm
      exact iff_of_true ⟨_, rfl⟩ (.inl edm)
    split
    · rename_i raw
      exact iff_of_true ⟨_, rfl⟩ (.inr (.inl raw))
    rename_i edm raw
    simp only [edm, raw, false_or, ← get?_eq_some_iff]
    cases schema.get? scope name with
    | none => simp
    | some t => cases t <;> simp

/-- A type whose lineage can be told, and what has to hold along it. -/
structure Sound (schema : Schema) (c : ComplexType) (chain : List ComplexType) : Prop where
  lineage : schema.Lineage c chain
  unshadowed : Unshadowed chain
  known : ∀ d ∈ chain, ∀ entry ∈ d.properties.entries, schema.Known entry.2.type.innermost
  keyed : ∀ key ∈ c.key, ∀ name ∈ key, ∃ d ∈ chain, name ∈ d.properties.names

def WellFormed (schema : Schema) : Prop := ∀ c ∈ schema.complexTypes, ∃ chain, schema.Sound c chain

theorem checkType_eq_ok : schema.checkType c = .ok () ↔ ∃ chain, schema.Sound c chain := by
  unfold checkType
  simp only [bind_eq_ok, properties_eq_ok]
  constructor
  · rintro ⟨_, ⟨chain, lineage, rfl, distinct⟩, _, resolved, keyed⟩
    have unshadowed := nodup_inherited_iff.mp distinct
    refine ⟨chain, lineage, unshadowed, ?_, ?_⟩
    · intro d member entry own
      have present : entry ∈ inherited chain := mem_inherited.mpr ⟨d, member, own⟩
      exact exists_kind_iff.mp (map_unit_eq_ok.mp (forM_eq_ok.mp resolved entry present))
    · intro key declared name member
      rw [Option.mem_def.mp declared] at keyed
      exact (exists_property_iff lineage unshadowed).mp
        (map_unit_eq_ok.mp (forM_eq_ok.mp keyed name member))
  · rintro ⟨chain, lineage, unshadowed, known, keyed⟩
    refine ⟨_, ⟨chain, lineage, rfl, nodup_inherited_iff.mpr unshadowed⟩, (), ?_, ?_⟩
    · apply forM_eq_ok.mpr
      intro entry present
      rcases mem_inherited.mp present with ⟨d, member, own⟩
      exact map_unit_eq_ok.mpr (exists_kind_iff.mpr (known d member entry own))
    · apply forM_eq_ok.mpr
      intro name member
      have listed : ∃ d ∈ chain, name ∈ d.properties.names := by
        cases declared : c.key with
        | none =>
          rw [declared] at member
          cases member
        | some key =>
          rw [declared] at member
          exact keyed key declared name member
      exact map_unit_eq_ok.mpr ((exists_property_iff lineage unshadowed).mpr listed)

/-- Validation accepts exactly the well-formed schemas. -/
theorem validate_eq_ok_iff (schema : Schema) : schema.validate = .ok () ↔ schema.WellFormed := by
  rw [validate, forM_eq_ok]
  simp only [checkType_eq_ok, WellFormed]

end ODataRequest.Schema
