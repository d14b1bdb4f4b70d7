import ODataRequest.Proofs.QueryPairs
import Mathlib.Data.List.Nodup
namespace ODataRequest

/-!
When aliases can be written. A list of texts covers some aliases if it holds the text of every
alias that they lead to. Then writing them succeeds in whatever order they come, and binds texts
of the list only: so the texts of one accepted request serve every other that writes no more.
-/

namespace Renderer

variable {renderer : Renderer} {roots roots' pending : List Alias} {met : List AliasId}
  {listed bindings : List (String × String)} {param : Alias} {name text : String}

/-- Every alias that the roots lead to has a text, which is listed under the name of the alias. -/
def Covered (renderer : Renderer) (roots : List Alias) (listed : List (String × String)) : Prop :=
  ∀ param, Reached renderer roots param → ∃ text,
    (renderer.aliasText param).outcome = .ok text ∧ (param.name, text) ∈ listed

theorem reached_mono (more : roots ⊆ roots') (reached : Reached renderer roots param) :
    Reached renderer roots' param := by
  induction reached with
  | root member => exact .root (more member)
  | met _ rendered meets ih => exact .met ih rendered meets

theorem covered_mono (more : roots ⊆ roots') (covered : Covered renderer roots' listed) :
    Covered renderer roots listed := by
  intro param reached
  exact covered param (reached_mono more reached)

theorem addBinding_of_listed (unique : (listed.map Prod.fst).Nodup) (part : bindings ⊆ listed)
    (member : (name, text) ∈ listed) :
    ∃ bindings', addBinding bindings name text = .ok bindings' ∧ bindings' ⊆ listed := by
  unfold addBinding
  split
  · refine ⟨_, rfl, List.append_subset.mpr ⟨part, ?_⟩⟩
    exact List.cons_subset.mpr ⟨member, List.nil_subset listed⟩
  · rename_i other found
    have present : (name, other) ∈ listed := part (mem_of_lookupNamed found)
    have same : (name, other) = (name, text) :=
      List.inj_on_of_nodup_map unique present member rfl
    cases same
    rw [if_pos rfl]
    exact ⟨bindings, rfl, part⟩

/-- The pending aliases and all that join them later are among those reached. -/
theorem bindPending_of_covered (covered : Covered renderer roots listed)
    (unique : (listed.map Prod.fst).Nodup)
    (reached : ∀ param ∈ pending, Reached renderer roots param) (part : bindings ⊆ listed) :
    ∃ final, renderer.bindPending met pending bindings = .ok final ∧ final ⊆ listed := by
  fun_induction bindPending renderer met pending bindings with
  | case1 met bindings => exact ⟨bindings, rfl, part⟩
  | case2 met bindings param rest written e failed =>
    rcases covered param (reached param List.mem_cons_self) with ⟨text, rendered, _⟩
    rw [failed] at rendered
    cases rendered
  | case3 met bindings param rest written text rendered e failed =>
    rcases covered param (reached param List.mem_cons_self) with ⟨text', rendered', member⟩
    cases rendered.symm.trans rendered'
    rcases addBinding_of_listed unique part member with ⟨bindings', added, _⟩
    rw [failed] at added
    cases added
  | case4 met bindings param rest written fresh text rendered bindings' added ih =>
    have head : Reached renderer roots param := reached param List.mem_cons_self
    rcases covered param head with ⟨text', rendered', member⟩
    cases rendered.symm.trans rendered'
    rcases addBinding_of_listed unique part member with ⟨bindings'', added', part'⟩
    cases added.symm.trans added'
    -- What joins the end of the list was met while its head was written.
    apply ih
    · intro other member
      rcases List.mem_append.mp member with later | new
      · exact reached other (List.mem_cons_of_mem _ later)
      · exact .met head rendered (mem_of_mem_unmet new)
    · exact part'

theorem bindAliases_of_covered {aliases : AliasList}
    (covered : Covered renderer aliases.params listed) (unique : (listed.map Prod.fst).Nodup) :
    ∃ bindings, renderer.bindAliases aliases = .ok bindings ∧ bindings ⊆ listed := by
  apply bindPending_of_covered covered unique
  · intro param member
    exact .root member
  · exact List.nil_subset listed

end Renderer

namespace Mapping

variable {mapping : Mapping} {resource : ResourceParts} {draft : Draft} {roots : List Alias}
  {bindings : List (String × String)}

/-- What an accepted request has bound covers all aliases that lead to no others. -/
theorem covered_of_carries
    (gathered : Draft.Gathered mapping resource.parts resource.clauses draft)
    (identified : mapping.Identified resource.clauses)
    (bound : mapping.renderer.bindAliases draft.aliases = .ok bindings)
    (carried : ∀ param, Renderer.Reached mapping.renderer roots param →
      mapping.Carries resource param) :
    Renderer.Covered mapping.renderer roots bindings := by
  intro param reached
  exact bound_of_carries gathered identified bound (carried param reached)

end Mapping

namespace Draft

variable {mapping : Mapping} {draft : Draft} {root : String} {type : TypeRef}
  {query listed : List (String × String)}

theorem finish_of_covered (typed : draft.type = some type)
    (distinct : (draft.query.map Prod.fst).Nodup) (part : draft.query ⊆ query)
    (covered : Renderer.Covered mapping.renderer draft.aliases.params listed)
    (unique : ((query ++ listed).map Prod.fst).Nodup) :
    ∃ bindings, bindings ⊆ listed ∧
      draft.finish mapping root = .ok (draft.addressed root type bindings) := by
  rw [List.map_append] at unique
  rcases List.nodup_append.mp unique with ⟨_, listed_unique, apart⟩
  rcases Renderer.bindAliases_of_covered covered listed_unique with ⟨bindings, bound, listed_part⟩
  rcases Renderer.bindAliases_binding bound with ⟨done, met, binding⟩
  have keys : ((draft.query ++ bindings).map Prod.fst).Nodup := by
    rw [List.map_append]
    apply List.nodup_append.mpr
    refine ⟨distinct, binding.distinct, ?_⟩
    intro key member name member'
    exact apart key (List.map_subset _ part member) name (List.map_subset _ listed_part member')
  refine ⟨bindings, listed_part, ?_⟩
  exact (finish_eq_ok distinct).mpr ⟨type, bindings, typed, bound, keys, rfl⟩

end Draft
end ODataRequest
