import ODataRequest.Proofs.Occurrences
namespace ODataRequest

/-!
Writing the aliases that were met. The list of pending aliases grows while it is worked off; the
invariant says which aliases it has led to and which texts they have been given.
-/

section Unmet

variable {met : List AliasId} {params : List Alias} {param : Alias}

theorem mem_of_mem_unmet (member : param ∈ unmet met params) : param ∈ params := by
  induction params generalizing met with
  | nil => cases member
  | cons head rest ih =>
    unfold unmet at member
    split at member
    · exact List.mem_cons_of_mem _ (ih member)
    · rcases List.mem_cons.mp member with rfl | member
      · exact List.mem_cons_self
      · exact List.mem_cons_of_mem _ (ih member)

theorem id_known (met : List AliasId) (member : param ∈ params) :
    param.id ∈ (unmet met params).map AliasOf.id ++ met := by
  induction params generalizing met with
  | nil => cases member
  | cons head rest ih =>
    unfold unmet
    split
    · rename_i known
      rcases List.mem_cons.mp member with rfl | member
      · exact List.mem_append_right _ (List.contains_iff_mem.mp known)
      · exact ih met member
    · rcases List.mem_cons.mp member with rfl | member
      · exact List.mem_cons_self
      · have later := ih (head.id :: met) member
        simp only [List.mem_append, List.mem_cons, List.map_cons] at later ⊢
        grind

end Unmet

theorem not_mem_of_lookupNamed {α : Type} {name : String} {entries : List (String × α)}
    (missing : lookupNamed name entries = none) : name ∉ entries.map Prod.fst := by
  induction entries with
  | nil => exact List.not_mem_nil
  | cons entry rest ih =>
    rcases entry with ⟨other, value⟩
    unfold lookupNamed at missing
    split at missing
    · cases missing
    · rename_i different
      intro member
      rcases List.mem_cons.mp member with same | member
      · exact different same.symm
      · exact ih missing member

theorem distinct_append {β : Type} {pairs : List (String × β)} {name : String} (text : β)
    (distinct : (pairs.map Prod.fst).Nodup) (new : name ∉ pairs.map Prod.fst) :
    ((pairs ++ [(name, text)]).map Prod.fst).Nodup := by
  rw [List.map_append, List.nodup_append]
  refine ⟨distinct, by simp, ?_⟩
  intro first member second single same
  cases List.mem_singleton.mp single
  rw [same] at member
  exact new member

theorem new_of_distinct {β : Type} {pairs rest : List (String × β)} {pair : String × β}
    (distinct : ((pairs ++ pair :: rest).map Prod.fst).Nodup) : pair.1 ∉ pairs.map Prod.fst := by
  rw [List.map_append] at distinct
  intro member
  exact (List.nodup_append.mp distinct).2.2 pair.1 member pair.1 List.mem_cons_self rfl

namespace Renderer

variable {renderer : Renderer} {roots done pending : List Alias} {met : List AliasId}
  {bindings bindings' : List (String × String)} {param : Alias} {name text : String}

theorem mem_addBinding (added : addBinding bindings name text = .ok bindings')
    (pair : String × String) : pair ∈ bindings' ↔ pair ∈ bindings ∨ pair = (name, text) := by
  unfold addBinding at added
  split at added
  · cases added
    simp
  · rename_i other found
    split at added
    · rename_i same
      cases added
      rw [same] at found
      have present : (name, text) ∈ bindings := mem_of_lookupNamed found
      constructor
      · exact .inl
      · rintro (member | rfl)
        · exact member
        · exact present
    · cases added

theorem addBinding_distinct (added : addBinding bindings name text = .ok bindings')
    (distinct : (bindings.map Prod.fst).Nodup) : (bindings'.map Prod.fst).Nodup := by
  unfold addBinding at added
  split at added
  · rename_i missing
    cases added
    exact distinct_append text distinct (not_mem_of_lookupNamed missing)
  · split at added
    · cases added
      exact distinct
    · cases added

/-- Met on the way from the given aliases, through aliases that have a text. -/
inductive Reached (renderer : Renderer) (roots : List Alias) : Alias → Prop
  | root {param : Alias} : param ∈ roots → Reached renderer roots param
  | met {param other : Alias} {text : String} :
      Reached renderer roots other → (renderer.aliasText other).outcome = .ok text →
      param ∈ (renderer.aliasText other).met → Reached renderer roots param

/-- What is known while aliases are written: `done` are written, `pending` are not. -/
structure Binding (renderer : Renderer) (roots done pending : List Alias) (met : List AliasId)
    (bindings : List (String × String)) : Prop where
  rooted : ∀ param ∈ roots, param ∈ done ∨ param ∈ pending
  reached : ∀ param, param ∈ done ∨ param ∈ pending → Reached renderer roots param
  known : ∀ id ∈ met, ∃ param, (param ∈ done ∨ param ∈ pending) ∧ param.id = id
  closed : ∀ param ∈ done, ∀ next ∈ (renderer.aliasText param).met, next.id ∈ met
  written : ∀ param ∈ done, ∃ text,
    (renderer.aliasText param).outcome = .ok text ∧ (param.name, text) ∈ bindings
  origin : ∀ pair ∈ bindings, ∃ param ∈ done,
    param.name = pair.1 ∧ (renderer.aliasText param).outcome = .ok pair.2
  distinct : (bindings.map Prod.fst).Nodup

theorem binding_start (renderer : Renderer) (roots : List Alias) :
    Binding renderer roots [] roots (roots.map AliasOf.id) [] where
  rooted param member := .inr member
  reached param member := .root (member.resolve_left List.not_mem_nil)
  known id member := by
    rcases List.mem_map.mp member with ⟨param, member, same⟩
    exact ⟨param, .inr member, same⟩
  closed param member := absurd member List.not_mem_nil
  written param member := absurd member List.not_mem_nil
  origin pair member := absurd member List.not_mem_nil
  distinct := List.nodup_nil

theorem binding_step (binding : Binding renderer roots done (param :: pending) met bindings)
    (rendered : (renderer.aliasText param).outcome = .ok text)
    (added : addBinding bindings param.name text = .ok bindings') :
    Binding renderer roots (param :: done)
      (pending ++ unmet met (renderer.aliasText param).met)
      ((unmet met (renderer.aliasText param).met).map AliasOf.id ++ met) bindings' where
  rooted other member := by
    have before := binding.rooted other member
    simp only [List.mem_cons, List.mem_append] at before ⊢
    grind
  reached other member := by
    have before : other ∈ done ∨ other ∈ param :: pending → Reached renderer roots other :=
      binding.reached other
    have self : Reached renderer roots param := binding.reached param (.inr List.mem_cons_self)
    have fresh (member : other ∈ unmet met (renderer.aliasText param).met) :
        Reached renderer roots other := .met self rendered (mem_of_mem_unmet member)
    simp only [List.mem_cons, List.mem_append] at member before
    grind
  known id member := by
    rcases List.mem_append.mp member with member | member
    · rcases List.mem_map.mp member with ⟨other, member, same⟩
      exact ⟨other, .inr (List.mem_append_right _ member), same⟩
    · rcases binding.known id member with ⟨other, place, same⟩
      refine ⟨other, ?_, same⟩
      simp only [List.mem_cons, List.mem_append] at place ⊢
      grind
  closed other member next meets := by
    rcases List.mem_cons.mp member with rfl | member
    · exact id_known _ meets
    · exact List.mem_append_right _ (binding.closed other member next meets)
  written other member := by
    rcases List.mem_cons.mp member with rfl | member
    · exact ⟨text, rendered, (mem_addBinding added _).mpr (.inr rfl)⟩
    · rcases binding.written other member with ⟨otherText, otherRendered, present⟩
      exact ⟨otherText, otherRendered, (mem_addBinding added _).mpr (.inl present)⟩
  origin pair member := by
    rcases (mem_addBinding added pair).mp member with member | rfl
    · rcases binding.origin pair member with ⟨other, present, origin⟩
      exact ⟨other, List.mem_cons_of_mem _ present, origin⟩
    · exact ⟨param, List.mem_cons_self, rfl, rendered⟩
  distinct := addBinding_distinct added binding.distinct

@[simp] theorem bindAliases_empty (renderer : Renderer) :
    renderer.bindAliases .empty = .ok [] := by
  rw [bindAliases]
  exact bindPending.eq_1 ..

theorem bindPending_cons {others : List Alias}
    (rendered : renderer.aliasText param = ⟨others, .ok text⟩)
    (added : addBinding bindings param.name text = .ok bindings') :
    renderer.bindPending met (param :: pending) bindings =
      renderer.bindPending ((unmet met others).map AliasOf.id ++ met)
        (pending ++ unmet met others) bindings' := by
  rw [bindPending, rendered]
  dsimp only
  rw [added]

theorem bindPending_binding {final : List (String × String)}
    (accepted : renderer.bindPending met pending bindings = .ok final)
    (binding : Binding renderer roots done pending met bindings) :
    ∃ done met, Binding renderer roots done [] met final := by
  fun_induction bindPending renderer met pending bindings generalizing done with
  | case1 met bindings =>
    cases accepted
    exact ⟨done, met, binding⟩
  | case2 => cases accepted
  | case3 => cases accepted
  | case4 met bindings param rest _ _ text rendered bindings' added =>
    rename_i ih
    exact ih accepted (binding_step binding rendered added)

/-- All aliases reached are bound, to the texts of aliases reached, under distinct names. -/
theorem bindAliases_binding {aliases : AliasList}
    (accepted : renderer.bindAliases aliases = .ok bindings) :
    ∃ done met, Binding renderer aliases.params done [] met bindings :=
  bindPending_binding accepted (binding_start renderer aliases.params)

theorem mem_met_render {e : Expr} (rendered : (renderer.render e).outcome = .ok text) :
    param ∈ (renderer.render e).met ↔ Writes renderer.schema e param := by
  rw [met_render]
  rcases Traced.outcome_bind_eq_ok.mp rendered with ⟨rendering, evaluated, _⟩
  exact meetsWritten renderer e evaluated param

theorem mem_met_aliasText {other : Alias}
    (rendered : (renderer.aliasText other).outcome = .ok text) :
    param ∈ (renderer.aliasText other).met ↔
      ∃ e, other.payload = .reference e ∧ Writes renderer.schema e param := by
  unfold aliasText at rendered ⊢
  cases payload : other.payload with
  | constant v type => simp [Traced.ofExcept]
  | text text => simp [pure]
  | reference e =>
    rw [payload] at rendered
    simp [mem_met_render rendered]

theorem aliasText_of_payload {other : Alias} (same : other.payload = param.payload) :
    renderer.aliasText other = renderer.aliasText param := by
  unfold aliasText
  rw [same]

end Renderer
end ODataRequest
