import Mathlib.Logic.Relation
import ODataRequest.Proofs.Causes
import ODataRequest.Proofs.QueryPairs
namespace ODataRequest

/-!
What the parts of a path can fail for. If no clause and no key does it, none of them misses an
entity set once there is one.
-/

namespace Draft

open Renderer

variable {mapping : Mapping} {draft draft' : Draft} {part : ResourcePart} {type : TypeRef}
  {rendered : Expr → Prop}

theorem addPair_explained (draft : Draft) (key text : String) :
    Yields (draft.addPair key text) (fun draft' => draft'.aliases = draft.aliases)
      (mapping.renderer.Explained rendered) := by
  rw [addPair]
  split
  · exact Yields.error nofun
  · exact Yields.ok rfl

theorem addClause_explained (descends : Renderer.Descends rendered) {clause : Clause}
    (present : rendered clause.expr) (refers : Refers rendered draft.aliases.params) :
    Yields (addClause mapping draft clause) (fun draft' => Refers rendered draft'.aliases.params)
      (mapping.renderer.Explained rendered) := by
  apply (explained_of_spares clause.key_spares).bind
  intro key _
  apply (render_explained descends present).bind
  intro text _
  refine (addPair_explained _ key _).mono ?_
  intro draft' kept
  rw [kept]
  have met : Refers rendered (mapping.renderer.render clause.expr).met :=
    refers_met descends present
  exact refers.append (met.of_subset fun _ => mem_of_mem_unmet)

theorem addProperty_explained (draft : Draft) (name : String) :
    Yields (draft.addProperty mapping type name) (fun _ => True)
      (mapping.renderer.Explained rendered) := by
  rw [addProperty]
  split
  · rename_i c _
    apply (explained_of_spares (mapping.schema.property_spares c name)).bind
    exact fun _ _ => Yields.ok trivial
  · exact Yields.error nofun

theorem addCount_explained (draft : Draft) :
    Yields (draft.addCount type) (fun _ => True) (mapping.renderer.Explained rendered) := by
  rw [addCount]
  split
  · exact Yields.ok trivial
  · exact Yields.error nofun

theorem addValue_explained (draft : Draft) :
    Yields (draft.addValue mapping type) (fun _ => True)
      (mapping.renderer.Explained rendered) := by
  have leaf : Yields (isLeaf mapping.schema type) (fun _ => True)
      (mapping.renderer.Explained rendered) := by
    rw [isLeaf]
    split
    · exact Yields.ok trivial
    · exact (explained_of_spares (mapping.schema.kind_spares type)).map fun _ _ => trivial
  apply leaf.bind
  intro leaf _
  split
  · exact Yields.ok trivial
  · exact Yields.error nofun

theorem addCast_explained (draft : Draft) (target : String) :
    Yields (draft.addCast mapping type target) (fun _ => True)
      (mapping.renderer.Explained rendered) := by
  rw [addCast]
  split
  · exact Yields.error nofun
  · apply (explained_of_spares (mapping.schema.complex_spares _)).bind
    intro c _
    apply (explained_of_spares (mapping.schema.resolveCast_spares c target)).bind
    exact fun _ _ => Yields.ok trivial

theorem keyLiteral_explained (value : Value) (type : TypeRef) :
    Yields (keyLiteral mapping value type) (fun _ => True)
      (mapping.renderer.Explained rendered) := by
  have written := mapping.renderer.serializer_explained rendered value type
  exact Yields.map written fun _ _ => trivial

theorem segmentText_explained (value : Value) (type : TypeRef) :
    Yields (segmentText mapping value type) (fun _ => True)
      (mapping.renderer.Explained rendered) := by
  rw [segmentText.eq_def]
  split
  · exact Yields.ok trivial
  · exact keyLiteral_explained _ type

theorem compositeText_explained (entity : ComplexType) (key : List (String × Property))
    (pairs : List (String × Value)) :
    Yields (compositeText mapping entity key pairs) (fun _ => True)
      (mapping.renderer.Explained rendered) := by
  rw [compositeText]
  split
  · exact Yields.error nofun
  · have texts : Yields (key.mapM (keyPair mapping entity pairs)) (fun _ => True)
        (mapping.renderer.Explained rendered) := by
      refine (Yields.mapM (R := fun _ => True) ?_).mono fun _ _ => trivial
      intro declared _
      rw [keyPair]
      split
      · exact Yields.error nofun
      · exact (keyLiteral_explained _ _).bind fun _ _ => Yields.ok trivial
    exact texts.bind fun _ _ => Yields.ok trivial

theorem singleKeyType_explained (entity : ComplexType) (key : List (String × Property))
    (value : Value) :
    Yields (singleKeyType entity key value) (fun _ => True)
      (mapping.renderer.Explained rendered) := by
  rw [singleKeyType.eq_def]
  split
  · exact Yields.error nofun
  · exact Yields.ok trivial
  · exact Yields.error nofun

theorem addKey_explained (draft : Draft) (key : KeySelection) :
    Yields (draft.addKey mapping type key).outcome (fun _ => True)
      (mapping.renderer.Explained rendered) := by
  have keyed : Yields (keyedElement mapping.schema type) (fun _ => True)
      (mapping.renderer.Explained rendered) := by
    unfold keyedElement
    split
    · split
      · exact Yields.ok trivial
      · exact Yields.error nofun
    · exact Yields.error nofun
  apply Yields.logged keyed
  rintro ⟨element, entity⟩ _
  apply Yields.logged (explained_of_spares (mapping.schema.keyProperties_spares entity))
  intro declared _
  cases key with
  | raw text => exact Yields.ok trivial
  | styled style key =>
    cases key with
    | single value =>
      have typed : Yields (singleKeyType entity declared value) (fun _ => True)
          (mapping.renderer.Explained rendered) := singleKeyType_explained entity declared value
      cases style with
      | parenthesized =>
        apply Yields.logged typed
        intro keyType _
        apply Yields.logged (keyLiteral_explained value keyType)
        exact fun _ _ => Yields.ok trivial
      | segment =>
        apply Yields.logged typed
        intro keyType _
        apply Yields.logged (segmentText_explained value keyType)
        exact fun _ _ => Yields.ok trivial
    | composite pairs =>
      have written : Yields (compositeText mapping entity declared pairs) (fun _ => True)
          (mapping.renderer.Explained rendered) := compositeText_explained entity declared pairs
      cases style with
      | parenthesized => exact Yields.logged written fun _ _ => Yields.ok trivial
      | segment =>
        have warned (ignored : Bool) (warning : Warning) :
            Yields (warnUnless ignored warning).outcome (fun _ => True)
              (mapping.renderer.Explained rendered) := by
          cases ignored with
          | true => exact Yields.ok trivial
          | false => exact Yields.ok trivial
        apply (warned _ _).logged
        intro _ _
        exact Yields.logged written fun _ _ => Yields.ok trivial

theorem addFunction_explained (set : EntitySet) (addressed : draft.entitySet = some set)
    (refers : Refers rendered draft.aliases.params) (name : String)
    (arguments : List (String × Value)) :
    Yields (draft.addFunction type name arguments)
      (fun draft' => Refers rendered draft'.aliases.params)
      (mapping.renderer.Explained rendered) := by
  rw [addFunction, addressed]
  apply (explained_of_spares (set.boundFunction_spares type name)).bind
  intro f _
  split
  · exact Yields.error nofun
  · have given : Yields (f.parameters.foldlM (addArgument f arguments) (draft.aliases, []))
        (fun state => Refers rendered state.1.params) (mapping.renderer.Explained rendered) := by
      apply Yields.foldlM
        (R := fun state : AliasList × List String => Refers rendered state.1.params) refers
      intro state before p _
      rw [addArgument]
      split
      · exact Yields.error nofun
      · apply Yields.ok
        apply before.append
        intro param member e refers
        cases List.mem_singleton.mp (mem_of_mem_unmet member)
        cases refers
    apply given.bind
    intro state after
    exact Yields.ok after

theorem addRoot_explained (draft : Draft) (part : ResourcePart) :
    Yields (draft.addRoot part) (fun _ => True) (mapping.renderer.Explained rendered) := by
  cases part with
  | container name =>
    rw [addRoot]
    split
    · exact Yields.ok trivial
    · exact Yields.error nofun
  | entitySet set => exact Yields.ok trivial
  | _ => exact Yields.error nofun

theorem addPathPart_explained {draft : Draft} (plain : Plain part) :
    Yields (draft.addPathPart mapping type part).outcome (fun _ => True)
      (mapping.renderer.Explained rendered) := by
  cases part with
  | container name => exact Yields.error nofun
  | entitySet set => exact Yields.error nofun
  | key key => exact addKey_explained draft key
  | property name => exact addProperty_explained draft name
  | count => exact addCount_explained draft
  | value => exact addValue_explained draft
  | cast target => exact addCast_explained draft target
  | function name arguments => exact absurd plain id
  | query clauses => exact absurd plain id

theorem addPlain_explained (plain : Plain part) (refers : Refers rendered draft.aliases.params) :
    Yields (addPart mapping draft part).outcome
      (fun draft' => Refers rendered draft'.aliases.params)
      (mapping.renderer.Explained rendered) := by
  have ended : Yields (addPart mapping draft part).outcome (fun _ => True)
      (mapping.renderer.Explained rendered) := by
    unfold addPart
    split
    · exact absurd plain id
    · split
      · exact Yields.error nofun
      · exact addRoot_explained draft part
      · exact addPathPart_explained plain
  refine Yields.of_cases ?_ fun _ => ended.of_eq_error
  intro draft' added
  rw [(framed_addPart plain added).aliases]
  exact refers

theorem addPart_explained (descends : Renderer.Descends rendered)
    (present : ∀ clause ∈ part.clauses, rendered clause.expr)
    (addressed : draft.type.isSome = draft.entitySet.isSome)
    (refers : Refers rendered draft.aliases.params) :
    Yields (addPart mapping draft part).outcome
      (fun draft' => Refers rendered draft'.aliases.params)
      (mapping.renderer.Explained rendered) := by
  cases part with
  | query clauses =>
    apply Yields.foldlM (R := fun current : Draft => Refers rendered current.aliases.params) refers
    intro current before clause member
    exact addClause_explained descends (present clause member) before
  | function name arguments =>
    unfold addPart
    dsimp only
    split
    · exact Yields.error nofun
    · exact Yields.error nofun
    · rename_i type _ typed
      rw [typed] at addressed
      rcases Option.isSome_iff_exists.mp addressed.symm with ⟨set, chosen⟩
      exact addFunction_explained set chosen refers name arguments
  | _ => exact addPlain_explained trivial refers

theorem finish_explained (descends : Renderer.Descends rendered)
    (refers : Refers rendered draft.aliases.params) (root : String) :
    Yields (draft.finish mapping root) (fun _ => True) (mapping.renderer.Explained rendered) := by
  rw [finish]
  split
  · exact Yields.error nofun
  · apply (bindPending_explained descends refers []).bind
    intro bindings _
    have paired : Yields (bindings.foldlM (fun draft binding =>
        draft.addPair binding.1 binding.2) draft) (fun _ => True)
        (mapping.renderer.Explained rendered) := by
      apply Yields.foldlM trivial
      intro current _ binding _
      exact (addPair_explained current _ _).mono fun _ _ => trivial
    exact paired.bind fun _ _ => Yields.ok trivial

end Draft

def Clause.Rendered (clauses : List Clause) (e : Expr) : Prop :=
  ∃ clause ∈ clauses, Relation.ReflTransGen Expr.Precedes e clause.expr

theorem Clause.descends_rendered (clauses : List Clause) :
    Renderer.Descends (Clause.Rendered clauses) := by
  rintro e whole precedes ⟨clause, member, below⟩
  exact ⟨clause, member, .head precedes below⟩

theorem Clause.rendered_of_mem {clauses : List Clause} {clause : Clause}
    (member : clause ∈ clauses) : Clause.Rendered clauses clause.expr := ⟨clause, member, .refl⟩

end ODataRequest
