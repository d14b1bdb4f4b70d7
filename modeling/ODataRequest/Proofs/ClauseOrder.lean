import ODataRequest.Proofs.Coverage
import ODataRequest.Proofs.QueryText
import Mathlib.Data.List.Perm.Basic
namespace ODataRequest

def ResourceParts.queried (resource : ResourceParts) (queries : List (List Clause)) :
    ResourceParts :=
  ⟨resource.parts ++ queries.map .query⟩

section Queries

variable {resource : ResourceParts} {queries : List (List Clause)}

theorem ResourceParts.push_query (resource : ResourceParts) (clauses : List Clause) :
    resource.push (.query clauses) = .ok (resource.queried [clauses]) := by
  have allowed : (resource.hasQuery && !(ResourcePart.query clauses).isQuery) = false := by
    simp [ResourcePart.isQuery]
  rw [push, allowed]
  rfl

theorem ResourceParts.pushAll_queries (resource : ResourceParts) (queries : List (List Clause)) :
    resource.pushAll (queries.map .query) = .ok (resource.queried queries) := by
  induction queries generalizing resource with
  | nil => simp [pushAll, queried, pure, Except.pure]
  | cons head rest ih =>
    have later := ih (resource.queried [head])
    unfold pushAll at later ⊢
    rw [List.map_cons, List.foldlM_cons, push_query]
    refine later.trans ?_
    simp [queried]

theorem ResourceParts.clauses_queried (resource : ResourceParts) (queries : List (List Clause)) :
    (resource.queried queries).clauses = resource.clauses ++ queries.flatten := by
  have each : (queries.map ResourcePart.query).flatMap ResourcePart.clauses = queries.flatten := by
    rw [List.flatMap_map]
    exact List.flatMap_id
  rw [clauses, queried, List.flatMap_append, each]
  rfl

theorem ResourceParts.clauses_queried_mono {first second : List (List Clause)}
    (resource : ResourceParts) (more : first.flatten ⊆ second.flatten) :
    (resource.queried first).clauses ⊆ (resource.queried second).clauses := by
  rw [clauses_queried, clauses_queried]
  apply List.append_subset.mpr
  exact ⟨List.subset_append_left _ _, List.subset_append_of_subset_right _ more⟩

end Queries

namespace Mapping

variable {mapping : Mapping} {resource : ResourceParts} {first second queries : List (List Clause)}
  {param : Alias}

theorem argument_queried (argument : mapping.Argument (resource.queried queries).parts param) :
    mapping.Argument resource.parts param := by
  induction queries using List.reverseRecOn with
  | nil => exact List.append_nil resource.parts ▸ argument
  | append_singleton earlier last ih =>
    apply ih
    rw [ResourceParts.queried, List.map_append, ← List.append_assoc] at argument
    exact Draft.argument_of_concat (fun _ _ same => by cases same) argument

theorem carries_queried (more : first.flatten ⊆ second.flatten)
    (carried : mapping.Carries (resource.queried first) param) :
    mapping.Carries (resource.queried second) param := by
  rcases carried with shown | argument
  · exact .inl (shown_mono (resource.clauses_queried_mono more) shown)
  · exact .inr (Draft.argument_mono (List.prefix_append _ _) (argument_queried argument))

end Mapping

namespace Draft

variable {mapping : Mapping} {draft draft' : Draft} {clauses : List Clause}
  {pairs : List (String × String)}

def asked (draft : Draft) (pairs : List (String × String)) (aliases : AliasList) : Draft :=
  { draft with query := draft.query ++ pairs, aliases := aliases }

theorem asked_nil (draft : Draft) : draft.asked [] draft.aliases = draft := by
  rw [asked, List.append_nil]

theorem asked_asked (draft : Draft) (pairs more : List (String × String))
    (aliases aliases' : AliasList) :
    (draft.asked pairs aliases).asked more aliases' = draft.asked (pairs ++ more) aliases' := by
  simp only [asked, List.append_assoc]

theorem pairs_of_addClauses (distinct : (draft.query.map Prod.fst).Nodup)
    (added : clauses.foldlM (addClause mapping) draft = .ok draft') :
    ∃ pairs aliases, List.Forall₂ mapping.ClausePair clauses pairs ∧
      ((draft.query ++ pairs).map Prod.fst).Nodup ∧ draft' = draft.asked pairs aliases := by
  induction clauses generalizing draft with
  | nil =>
    cases added
    have same : draft'.query ++ [] = draft'.query := List.append_nil _
    exact ⟨[], draft'.aliases, .nil, same.symm ▸ distinct, draft'.asked_nil.symm⟩
  | cons head rest ih =>
    rw [List.foldlM_cons] at added
    rcases bind_eq_ok.mp added with ⟨next, stepped, added⟩
    rcases addClause_eq_ok.mp stepped with ⟨pair, paired, new, same⟩
    have asked : next = draft.asked [pair] next.aliases := by
      rw [same]
      rfl
    have distinct' : (next.query.map Prod.fst).Nodup := by
      rw [same]
      exact distinct_append _ distinct new
    rcases ih distinct' added with ⟨pairs, aliases, others, distinct'', last⟩
    refine ⟨pair :: pairs, aliases, .cons paired others, ?_, ?_⟩
    · rw [asked, Draft.asked] at distinct''
      rw [List.append_cons]
      exact distinct''
    · rw [last, asked, asked_asked, List.singleton_append]

theorem addClauses_of_pairs (paired : List.Forall₂ mapping.ClausePair clauses pairs)
    (distinct : ((draft.query ++ pairs).map Prod.fst).Nodup) :
    ∃ aliases, clauses.foldlM (addClause mapping) draft = .ok (draft.asked pairs aliases) := by
  induction paired generalizing draft with
  | nil => exact ⟨draft.aliases, congrArg Except.ok draft.asked_nil.symm⟩
  | @cons clause pair clauses pairs head _ ih =>
    have new : pair.1 ∉ draft.query.map Prod.fst := new_of_distinct distinct
    let met := (mapping.renderer.render clause.expr).met
    let next := draft.asked [pair] (draft.aliases.pushAll met)
    have stepped : addClause mapping draft clause = .ok next :=
      addClause_eq_ok.mpr ⟨pair, head, new, rfl⟩
    have distinct' : ((next.query ++ pairs).map Prod.fst).Nodup := by
      rw [List.append_cons] at distinct
      exact distinct
    rcases ih distinct' with ⟨aliases, added⟩
    refine ⟨aliases, ?_⟩
    rw [List.foldlM_cons, stepped]
    exact added.trans (congrArg Except.ok (asked_asked ..))

theorem addQueries (mapping : Mapping) (draft : Draft) (queries : List (List Clause)) :
    (queries.map ResourcePart.query).foldlM (addPart mapping) draft =
      Logged.ofExcept (queries.flatten.foldlM (addClause mapping) draft) := by
  induction queries generalizing draft with
  | nil => rfl
  | cons head rest ih =>
    rw [List.map_cons, List.foldlM_cons, List.flatten_cons, List.foldlM_append, addPart]
    cases head.foldlM (addClause mapping) draft with
    | error e => rfl
    | ok next =>
      rw [Logged.ofExcept_ok, pure_bind, ih]
      rfl

end Draft

namespace Mapping

theorem draft_queried (mapping : Mapping) (resource : ResourceParts)
    (queries : List (List Clause)) :
    mapping.draft (resource.queried queries) = (do
      let draft ← mapping.draft resource
      Logged.ofExcept (queries.flatten.foldlM (Draft.addClause mapping) draft)) := by
  rw [draft, draft, ResourceParts.queried, List.foldlM_append]
  congr 1
  funext draft
  exact Draft.addQueries mapping draft queries

/-- Path, type and accepted content are the same, and no pair is new. -/
structure Matches (target target' : Target) : Prop where
  path : target'.address.path = target.address.path
  type : target'.type = target.type
  accept : target'.accept = target.accept
  query : target'.address.query ⊆ target.address.query

variable {mapping : Mapping} {root : String} {resource : ResourceParts}
  {first second : List (List Clause)} {target target' : Target}

theorem map_reordered (same : first.flatten.Perm second.flatten)
    (identified : mapping.Identified (resource.queried first).clauses)
    (accepted : (mapping.map root (resource.queried first)).outcome = .ok target) :
    ∃ target', (mapping.map root (resource.queried second)).outcome = .ok target' ∧
      Matches target target' := by
  have identified₂ : mapping.Identified (resource.queried second).clauses :=
    identified_mono (resource.clauses_queried_mono same.symm.subset) identified
  rcases map_eq_ok accepted identified with
    ⟨draft₁, type, bindings₁, reached₁, gathered₁, typed, bound₁, unique, rfl⟩
  have drafted := reached₁
  rw [draft_queried] at drafted
  rcases Logged.outcome_bind_eq_ok.mp drafted with ⟨draft, reached, added₁⟩
  have earlier : resource.clauses ⊆ (resource.queried first).clauses := by
    rw [ResourceParts.clauses_queried]
    exact List.subset_append_left _ _
  have start : Draft.Gathered mapping resource.parts resource.clauses draft :=
    gathered_of_identified reached (identified_mono earlier identified)
  rcases Draft.pairs_of_addClauses start.distinct added₁ with
    ⟨pairs₁, aliases₁, paired₁, distinct₁, rfl⟩
  -- A clause has the same pair wherever it stands, so the pairs are reordered with the clauses.
  rcases List.perm_comp_forall₂ same.symm paired₁ with ⟨pairs₂, paired₂, reordered⟩
  have queries : (draft.query ++ pairs₂).Perm (draft.query ++ pairs₁) := reordered.append_left _
  have distinct₂ : ((draft.query ++ pairs₂).map Prod.fst).Nodup :=
    (queries.map Prod.fst).nodup_iff.mpr distinct₁
  rcases Draft.addClauses_of_pairs paired₂ distinct₂ with ⟨aliases₂, added₂⟩
  have reached₂ : (mapping.draft (resource.queried second)).outcome =
      .ok (draft.asked pairs₂ aliases₂) := by
    rw [draft_queried]
    exact Logged.outcome_bind_eq_ok.mpr ⟨draft, reached, added₂⟩
  have gathered₂ := gathered_of_identified reached₂ identified₂
  have covered : Renderer.Covered mapping.renderer aliases₂.params bindings₁ := by
    apply covered_of_carries gathered₁ identified bound₁
    intro param found
    exact carries_queried same.symm.subset (carries_of_reached gathered₂ found)
  have typed₂ : (draft.asked pairs₂ aliases₂).type = some type := typed
  rcases Draft.finish_of_covered typed₂ gathered₂.distinct queries.subset covered unique with
    ⟨bindings₂, part, finished⟩
  refine ⟨_, Logged.outcome_bind_eq_ok.mpr ⟨_, reached₂, finished⟩, rfl, rfl, rfl, ?_⟩
  exact List.append_subset.mpr ⟨List.subset_append_of_subset_left _ queries.subset,
    List.subset_append_of_subset_right _ part⟩

theorem nodup_of_map (identified : mapping.Identified resource.clauses)
    (accepted : (mapping.map root resource).outcome = .ok target) :
    target.address.query.Nodup := by
  rcases map_eq_ok accepted identified with ⟨draft, type, bindings, _, _, _, _, distinct, rfl⟩
  exact List.Nodup.of_map Prod.fst distinct

/-- However clauses are ordered and divided into queries, the request is accepted or it is not,
and leads to the same place with the same pairs. -/
theorem map_queried_perm (same : first.flatten.Perm second.flatten)
    (identified : mapping.Identified (resource.queried first).clauses) :
    ((∃ target, (mapping.map root (resource.queried first)).outcome = .ok target) ↔
      ∃ target, (mapping.map root (resource.queried second)).outcome = .ok target) ∧
    ∀ target target', (mapping.map root (resource.queried first)).outcome = .ok target →
      (mapping.map root (resource.queried second)).outcome = .ok target' →
      target'.address.path = target.address.path ∧ target'.type = target.type ∧
      target'.accept = target.accept ∧ target'.address.query.Perm target.address.query := by
  have identified' : mapping.Identified (resource.queried second).clauses :=
    identified_mono (resource.clauses_queried_mono same.symm.subset) identified
  constructor
  · constructor
    · rintro ⟨target, accepted⟩
      rcases map_reordered same identified accepted with ⟨target', accepted', _⟩
      exact ⟨target', accepted'⟩
    · rintro ⟨target, accepted⟩
      rcases map_reordered same.symm identified' accepted with ⟨target', accepted', _⟩
      exact ⟨target', accepted'⟩
  · intro target target' accepted accepted'
    rcases map_reordered same identified accepted with ⟨_, again', forward⟩
    cases accepted'.symm.trans again'
    rcases map_reordered same.symm identified' accepted' with ⟨_, again, backward⟩
    cases accepted.symm.trans again
    have nodup : target.address.query.Nodup := nodup_of_map identified accepted
    have nodup' : target'.address.query.Nodup := nodup_of_map identified' accepted'
    refine ⟨forward.path, forward.type, forward.accept, ?_⟩
    apply (List.perm_ext_iff_of_nodup nodup' nodup).mpr
    intro pair
    exact ⟨fun member => forward.query member, fun member => backward.query member⟩

namespace Orders

/-- A custom parameter with an alias that the filter leads to as well. -/
def page : Call := Custom.call "page" (.ofAlias limit)

def pagedTarget : Target where
  accept := .json
  type := .collection order
  address := {
    root := "http://svc"
    container := some "Main"
    entitySet := some "Orders"
    path := "Orders"
    query := [("$filter", "Price lt @bound"), ("page", "@limit"), ("@bound", "@limit"),
      ("@limit", "9")] }

theorem writes_page {param : Alias} (written : Writes schema (.call page) param) :
    param = limit := by
  rcases (Renderer.writes_call_iff (Custom.reduce_call schema "page" (.ofAlias limit))).mp written
    with ⟨receiver, present, written⟩ | ⟨argument, member, written⟩
  · cases present
    cases written
  · cases List.mem_singleton.mp member
    cases written
    rfl

theorem identified_paged : Mapping.Identified { schema := schema } (ResourceParts.clauses
    (.queried ⟨[.entitySet orders]⟩ [[⟨.call cheap⟩], [⟨.call page⟩]])) := by
  rw [ResourceParts.clauses_queried]
  apply identified_of_writes
  intro clause member param written
  simp only [ResourceParts.clauses, ResourcePart.clauses, List.flatMap_singleton,
    List.nil_append, List.flatten_cons, List.flatten_nil, List.cons_append, List.mem_cons,
    List.not_mem_nil, or_false] at member
  rcases member with rfl | rfl
  · exact .inl (writes_cheap written)
  · exact .inr (writes_page written)

def cheapDraft : Draft := (Draft.ofSet orders).asked [("$filter", "Price lt @bound")] ⟨[bound]⟩

def pagedDraft : Draft := cheapDraft.asked [("page", "@limit")] ⟨[bound, limit]⟩

theorem addClauses_paged : [⟨.call cheap⟩, ⟨.call page⟩].foldlM
    (Draft.addClause { schema := schema }) (Draft.ofSet orders) = .ok pagedDraft := by
  have standard : Mapping.renderer { schema := schema } = Renderer.standard schema := rfl
  have filter : Draft.addClause { schema := schema } (Draft.ofSet orders) ⟨.call cheap⟩ =
      .ok cheapDraft := by
    rw [Draft.addClause, standard, render_cheap]
    rfl
  have parameter : Draft.addClause { schema := schema } cheapDraft ⟨.call page⟩ =
      .ok pagedDraft := by
    rw [Draft.addClause, page, Custom.key_call, Custom.render_call _ _ rfl,
      Renderer.render_ofAlias]
    rfl
  rw [List.foldlM_cons, filter]
  exact congrArg (· >>= fun draft => [].foldlM _ draft) parameter

theorem bindAliases_paged : (Renderer.standard schema).bindAliases pagedDraft.aliases =
    .ok [("@bound", "@limit"), ("@limit", "9")] := by
  let writer := Renderer.standard schema
  calc writer.bindAliases pagedDraft.aliases
    _ = writer.bindPending [.given 1, .given 0] [bound, limit] [] := rfl
    _ = writer.bindPending [.given 1, .given 0] [limit] [("@bound", "@limit")] :=
      Renderer.bindPending_cons aliasText_bound rfl
    _ = writer.bindPending [.given 1, .given 0] [] [("@bound", "@limit"), ("@limit", "9")] :=
      Renderer.bindPending_cons aliasText_limit rfl
    _ = .ok [("@bound", "@limit"), ("@limit", "9")] := by
      rw [Renderer.bindPending]

theorem map_paged : (Mapping.map { schema := schema } "http://svc"
    (ResourceParts.queried ⟨[.entitySet orders]⟩ [[⟨.call cheap⟩], [⟨.call page⟩]])).outcome =
      .ok pagedTarget := by
  have distinct : (pagedDraft.query.map Prod.fst).Nodup := by decide
  have finished : pagedDraft.finish { schema := schema } "http://svc" = .ok pagedTarget :=
    (Draft.finish_eq_ok distinct).mpr ⟨_, _, rfl, bindAliases_paged, by decide, rfl⟩
  rw [Mapping.map, draft_queried, Draft.draft_ofSet, pure_bind]
  change (Logged.ofExcept ([_, _].foldlM _ _) >>= _).outcome = _
  rw [addClauses_paged, Logged.ofExcept_ok, pure_bind, finished]
  rfl

end Orders

/-- The filter and the parameter in a query each, and both in one query the other way around. -/
theorem map_queried_perm_paged :
    ([[⟨.call Orders.cheap⟩], [⟨.call Orders.page⟩]] : List (List Clause)).flatten.Perm
        ([[⟨.call Orders.page⟩, ⟨.call Orders.cheap⟩]] : List (List Clause)).flatten ∧
      Mapping.Identified { schema := Orders.schema } (ResourceParts.clauses
        (.queried ⟨[.entitySet Orders.orders]⟩ [[⟨.call Orders.cheap⟩], [⟨.call Orders.page⟩]])) ∧
      ∃ target, (Mapping.map { schema := Orders.schema } "http://svc"
          (.queried ⟨[.entitySet Orders.orders]⟩
            [[⟨.call Orders.page⟩, ⟨.call Orders.cheap⟩]])).outcome = .ok target ∧
        target.address.query.Perm Orders.pagedTarget.address.query := by
  have same : ([[⟨.call Orders.cheap⟩], [⟨.call Orders.page⟩]] : List (List Clause)).flatten.Perm
      ([[⟨.call Orders.page⟩, ⟨.call Orders.cheap⟩]] : List (List Clause)).flatten := .swap ..
  rcases map_queried_perm same Orders.identified_paged with ⟨accepted, matching⟩
  rcases accepted.mp ⟨_, Orders.map_paged⟩ with ⟨target, turned⟩
  rcases matching _ _ Orders.map_paged turned with ⟨_, _, _, query⟩
  exact ⟨same, Orders.identified_paged, target, turned, query⟩

end Mapping
end ODataRequest
