import Mathlib.Data.List.Chain
import ODataRequest.Proofs.References
import ODataRequest.Schema.Inheritance
namespace ODataRequest.Schema

/-!
The base types of a type. A walk along base references comes to a list exactly if that list is a
lineage: it starts at the type, each type refers to the next one, the last one has no base, and no
full name returns. Each type of a lineage has the rest of it as its own lineage.
-/

variable {schema : Schema} {c d : ComplexType}

/-- The base reference of `c` is to `d`, which is declared, and not in a scope that is never looked
up. -/
structure Extends (schema : Schema) (c d : ComplexType) : Prop where
  refers : c.base = some d.type
  declared : d ∈ schema.complexTypes
  not_edm : d.scope ≠ edmScope
  not_raw : d.scope ≠ rawScope

theorem extends_iff {base : TypeRef} (refers : c.base = some base) :
    schema.Extends c d ↔ schema.complex base = .ok d := by
  rw [complex_eq_ok, kind_eq_complex]
  constructor
  · rintro ⟨same, declared, edm, raw⟩
    exact ⟨Option.some.inj (refers.symm.trans same), declared, edm, raw⟩
  · rintro ⟨rfl, declared, edm, raw⟩
    exact ⟨refers, declared, edm, raw⟩

theorem not_extends (root : c.base = none) : ¬schema.Extends c d := by
  intro step
  cases root.symm.trans step.refers

/-- A type and its base types, nearest first, up to one without a base type. -/
structure Lineage (schema : Schema) (c : ComplexType) (chain : List ComplexType) : Prop where
  starts : chain.head? = some c
  climbs : chain.IsChain schema.Extends
  ends : ∀ last ∈ chain.getLast?, last.base = none
  distinct : (chain.map ComplexType.fullName).Nodup

/-- A walk comes to the bases that continue a lineage, unless one of their names has been met. -/
theorem basesFrom_eq_ok {met : List String} {current : ComplexType} {bases : List ComplexType} :
    schema.basesFrom met current = .ok bases ↔
      (current :: bases).IsChain schema.Extends ∧
        (∀ last ∈ (current :: bases).getLast?, last.base = none) ∧
        (bases.map ComplexType.fullName).Nodup ∧ (bases.map ComplexType.fullName).Disjoint met := by
  fun_induction basesFrom schema met current generalizing bases with
  | case1 met current root =>
    cases bases with
    | nil => simp [root]
    | cons next rest => simp [not_extends root]
  | case2 met current base refers e unresolved =>
    cases bases with
    | nil => simp [refers]
    | cons next rest => simp [extends_iff refers, unresolved]
  | case3 met current base refers next resolved fresh ih =>
    cases bases with
    | nil => simp [refers, map_eq_ok]
    | cons other rest =>
      have unmet : next.fullName ∉ met := by simpa using fresh
      simp only [map_eq_ok, ih, List.isChain_cons_cons, extends_iff refers, resolved,
        Except.ok.injEq, List.getLast?_cons_cons, List.map_cons, List.nodup_cons,
        List.disjoint_cons_left, List.disjoint_cons_right]
      constructor
      · rintro ⟨_, ⟨climbs, ends, distinct, apart, others⟩, same⟩
        cases same
        exact ⟨⟨rfl, climbs⟩, ends, ⟨apart, distinct⟩, unmet, others⟩
      · rintro ⟨⟨rfl, climbs⟩, ends, ⟨apart, distinct⟩, _, others⟩
        exact ⟨rest, ⟨climbs, ends, distinct, apart, others⟩, rfl⟩
  | case4 met current base refers next resolved returned =>
    cases bases with
    | nil => simp [refers]
    | cons other rest =>
      have met : next.fullName ∈ met := by simpa using returned
      -- The references resolve, but a lineage may not come back to a name.
      simp only [List.isChain_cons_cons, extends_iff refers, resolved, Except.ok.injEq,
        reduceCtorEq, false_iff, not_and, List.map_cons, List.disjoint_cons_left]
      rintro ⟨rfl, _⟩ _ _ unmet _
      exact unmet met

theorem basesFrom_fails (schema : Schema) (met : List String) (current : ComplexType) :
    Yields (schema.basesFrom met current) (fun _ => True)
      fun e => ∃ name base, e = .unresolvedBase name base := by
  fun_induction basesFrom schema met current with
  | case1 => exact Yields.ok trivial
  | case2 => exact Yields.error ⟨_, _, rfl⟩
  | case3 met current base refers next resolved fresh ih => exact ih.map fun _ _ => trivial
  | case4 => exact Yields.error ⟨_, _, rfl⟩

theorem baseChain_fails (schema : Schema) (c : ComplexType) :
    Yields (schema.baseChain c) (fun _ => True)
      fun e => ∃ name base, e = .unresolvedBase name base :=
  (schema.basesFrom_fails [c.fullName] c).map fun _ _ => trivial

theorem baseChain_eq_ok {chain : List ComplexType} :
    schema.baseChain c = .ok chain ↔ schema.Lineage c chain := by
  rw [baseChain, map_eq_ok]
  simp only [basesFrom_eq_ok, List.disjoint_singleton]
  constructor
  · rintro ⟨bases, ⟨climbs, ends, distinct, unmet⟩, rfl⟩
    exact ⟨rfl, climbs, ends, List.nodup_cons.mpr ⟨unmet, distinct⟩⟩
  · rintro ⟨starts, climbs, ends, distinct⟩
    rcases List.head?_eq_some_iff.mp starts with ⟨bases, rfl⟩
    rcases List.nodup_cons.mp distinct with ⟨unmet, distinct⟩
    exact ⟨bases, ⟨climbs, ends, distinct, unmet⟩, rfl⟩

namespace Lineage

theorem of_append {nearer farther : List ComplexType}
    (lineage : schema.Lineage c (nearer ++ d :: farther)) : schema.Lineage d (d :: farther) where
  starts := rfl
  climbs := lineage.climbs.right_of_append
  ends := by
    intro last member
    apply lineage.ends
    rw [List.getLast?_append, Option.mem_def.mp member]
    rfl
  distinct := by
    have distinct := lineage.distinct
    rw [List.map_append] at distinct
    exact distinct.of_append_right

theorem nodup {chain : List ComplexType} (lineage : schema.Lineage c chain) : chain.Nodup :=
  lineage.distinct.of_map _

theorem declared {chain : List ComplexType} (lineage : schema.Lineage c chain)
    (known : c ∈ schema.complexTypes) (member : d ∈ chain) : d ∈ schema.complexTypes := by
  rcases List.append_of_mem member with ⟨nearer, farther, rfl⟩
  rcases List.eq_nil_or_concat' nearer with rfl | ⟨nearer, below, rfl⟩
  · cases lineage.starts
    exact known
  · have climbs := lineage.climbs
    rw [List.append_assoc] at climbs
    exact (List.isChain_cons_cons.mp climbs.right_of_append).1.declared

end Lineage

theorem property_declared {name : String} {p : Property} (declared : c ∈ schema.complexTypes)
    (found : schema.property c name = .ok p) :
    ∃ owner ∈ schema.complexTypes, (name, p) ∈ owner.properties.entries := by
  rcases bind_eq_ok.mp found with ⟨chain, walked, searched⟩
  have lineage := baseChain_eq_ok.mp walked
  split at searched
  · rename_i first
    cases searched
    rcases List.exists_of_findSome?_eq_some first with ⟨owner, member, own⟩
    exact ⟨owner, lineage.declared declared member, mem_of_lookupNamed own⟩
  · cases searched

end ODataRequest.Schema
