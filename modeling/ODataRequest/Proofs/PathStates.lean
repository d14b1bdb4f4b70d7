import ODataRequest.Proofs.Growth
import ODataRequest.Proofs.PathCauses
import ODataRequest.Proofs.Validation
namespace ODataRequest

def pathEnd? (parts : List ResourcePart) : Option ResourcePart :=
  (parts.filter fun part => !part.isQuery).getLast?

theorem pathEnd?_query (parts : List ResourcePart) (clauses : List Clause) :
    pathEnd? (parts ++ [.query clauses]) = pathEnd? parts := by
  simp [pathEnd?, ResourcePart.isQuery]

theorem pathEnd?_concat (parts : List ResourcePart) {part : ResourcePart}
    (path : part.isQuery = false) : pathEnd? (parts ++ [part]) = some part := by
  simp [pathEnd?, path]

namespace Draft

def EndedBy (draft : Draft) : Option ResourcePart → Prop
  | some .count =>
    draft.terminal = some "$count" ∧ draft.accept = .integer ∧ draft.type = some .int64
  | some .value => draft.terminal = some "$value" ∧ draft.accept = .raw ∧ draft.type = some .string
  | _ => draft.terminal = none ∧ draft.accept = .json

/-- What holds behind the given parts. -/
structure Consistent (parts : List ResourcePart) (draft : Draft) : Prop where
  addressed : draft.type.isSome = draft.entitySet.isSome
  begun : draft.type.isSome → draft.segments ≠ []
  ended : draft.EndedBy (pathEnd? parts)

/-- All that a part can do to a draft. -/
inductive Takes (draft : Draft) : ResourcePart → Draft → Prop
  | query (clauses : List Clause) (aliases : AliasList) (query : List (String × String)) :
      Takes draft (.query clauses) { draft with aliases, query }
  | container (name : String) :
      draft.terminal = none → draft.type = none →
      Takes draft (.container name) { draft with container := some name }
  | entitySet (set : EntitySet) (container : Option String) :
      draft.terminal = none → draft.type = none →
      Takes draft (.entitySet set)
        { draft.addSegment set.name set.pathType with container, entitySet := some set }
  | adds {part : ResourcePart} {draft' : Draft} :
      draft.terminal = none → draft.type.isSome → Adds draft part draft' → Takes draft part draft'

variable {mapping : Mapping} {draft draft' : Draft} {part : ResourcePart}
  {parts : List ResourcePart}

theorem takes_addClauses {clauses more : List Clause}
    (added : more.foldlM (addClause mapping) draft = .ok draft') :
    Takes draft (.query clauses) draft' := by
  have framed : Takes draft (.query clauses) draft := .query clauses draft.aliases draft.query
  apply foldlM_invariant (Takes draft (.query clauses)) _ framed added
  intro current clause next _ before stepped
  rcases addClause_eq_ok.mp stepped with ⟨pair, _, _, rfl⟩
  cases before with
  | query aliases query => exact .query ..
  | adds _ _ adds => cases adds

theorem takes_addRoot (opened : draft.terminal = none) (untyped : draft.type = none)
    (added : draft.addRoot part = .ok draft') : Takes draft part draft' := by
  unfold addRoot at added
  split at added
  · split at added
    · cases added
      exact .container _ opened untyped
    · cases added
  · cases added
    exact .entitySet _ _ opened untyped
  · cases added

theorem takes_addPart (added : (addPart mapping draft part).outcome = .ok draft') :
    Takes draft part draft' := by
  cases part with
  | query clauses => exact takes_addClauses added
  | function name arguments =>
    rcases addFunction_of_addPart added with ⟨type, typed, extended⟩
    rcases addFunction_eq_ok extended with ⟨set, f, aliases, texts, _, _, _, rfl⟩
    have begun : draft.type.isSome := Option.isSome_iff_exists.mpr ⟨type, typed⟩
    exact .adds (addPart_cases rfl added).1 begun (.function ..)
  | container _ | entitySet _ | key _ | property _ | count | value | cast _ =>
    have opened : draft.terminal = none := (addPart_cases rfl added).1
    cases typed : draft.type with
    | none => exact takes_addRoot opened typed (addRoot_of_addPart typed trivial added)
    | some type =>
      have begun : draft.type.isSome := Option.isSome_iff_exists.mpr ⟨type, typed⟩
      exact .adds opened begun (adds_addPart typed trivial added)

theorem consistent_start : Consistent [] {} where
  addressed := rfl
  begun := nofun
  ended := ⟨rfl, rfl⟩

theorem Consistent.plain (consistent : Consistent parts draft) (opened : draft.terminal = none) :
    draft.accept = .json := by
  have ended := consistent.ended
  unfold EndedBy at ended
  split at ended
  · rw [opened] at ended
    cases ended.1
  · rw [opened] at ended
    cases ended.1
  · exact ended.2

theorem Adds.begun (adds : Adds draft part draft') (begun : draft.segments ≠ []) :
    draft'.type.isSome ∧ draft'.segments ≠ [] ∧ draft'.entitySet = draft.entitySet := by
  cases adds with
  | behind text type filled => exact ⟨rfl, extendSegment_begun begun text type, rfl⟩
  | _ => exact ⟨rfl, List.append_ne_nil_of_right_ne_nil _ (List.cons_ne_nil _ _), rfl⟩

theorem Adds.ended (adds : Adds draft part draft') (opened : draft.terminal = none)
    (plain : draft.accept = .json) : draft'.EndedBy (some part) := by
  cases adds with
  | count => exact ⟨rfl, rfl, rfl⟩
  | value => exact ⟨rfl, rfl, rfl⟩
  | _ => exact ⟨opened, plain⟩

theorem consistent_takes (consistent : Consistent parts draft) (takes : Takes draft part draft') :
    Consistent (parts ++ [part]) draft' := by
  cases takes with
  | query clauses aliases query =>
    refine ⟨consistent.addressed, consistent.begun, ?_⟩
    rw [pathEnd?_query]
    exact consistent.ended
  | container name opened untyped =>
    refine ⟨consistent.addressed, consistent.begun, ?_⟩
    rw [pathEnd?_concat parts rfl]
    exact ⟨opened, consistent.plain opened⟩
  | entitySet set container opened untyped =>
    have filled : draft.segments ++ [set.name] ≠ [] :=
      List.append_ne_nil_of_right_ne_nil _ (List.cons_ne_nil _ _)
    refine ⟨rfl, fun _ => filled, ?_⟩
    rw [pathEnd?_concat parts rfl]
    exact ⟨opened, consistent.plain opened⟩
  | adds opened typed adds =>
    have path : part.isQuery = false := by cases adds <;> rfl
    rcases adds.begun (consistent.begun typed) with ⟨typed', begun', kept⟩
    refine ⟨?_, fun _ => begun', ?_⟩
    · rw [kept, ← consistent.addressed, typed, typed']
    · rw [pathEnd?_concat parts path]
      exact adds.ended opened (consistent.plain opened)

theorem consistent_draft (reached : (mapping.draft ⟨parts⟩).outcome = .ok draft) :
    Consistent parts draft := by
  induction parts using List.reverseRecOn generalizing draft with
  | nil =>
    cases reached
    exact consistent_start
  | append_singleton parts part ih =>
    rw [Mapping.draft_concat] at reached
    rcases Logged.outcome_bind_eq_ok.mp reached with ⟨earlier, reached, added⟩
    exact consistent_takes (ih reached) (takes_addPart added)

theorem Takes.key_lengthens {key : KeySelection} (takes : Takes draft (.key key) draft')
    (consistent : Consistent parts draft) :
    ∃ more, more ≠ "" ∧ draft'.path = draft.path ++ more := by
  cases takes with
  | adds opened typed adds =>
    have begun : draft.segments ≠ [] := consistent.begun typed
    cases adds with
    | behind text type filled => exact ⟨text, filled, path_extendSegment begun text type⟩
    | apart text type =>
      refine ⟨"/" ++ text, ?_, path_addSegment begun text type⟩
      intro empty
      have characters := congrArg String.toList empty
      simp at characters

theorem Takes.one_segment (takes : Takes draft part draft') (path : part.isQuery = false)
    (unkeyed : ∀ key, part ≠ .key key) (typed : draft'.type.isSome) :
    ∃ segment, draft'.segments = draft.segments ++ [segment] := by
  cases takes with
  | query => cases path
  | container name opened untyped =>
    rw [show draft.type = none from untyped] at typed
    cases typed
  | entitySet set => exact ⟨set.name, rfl⟩
  | adds opened typed adds =>
    cases adds with
    | behind => exact absurd rfl (unkeyed _)
    | apart => exact absurd rfl (unkeyed _)
    | property name => exact ⟨name, rfl⟩
    | cast segment => exact ⟨segment, rfl⟩
    | function segment => exact ⟨segment, rfl⟩
    | count => exact ⟨"$count", rfl⟩
    | value => exact ⟨"$value", rfl⟩

end Draft

namespace Mapping

variable {mapping : Mapping} {parts : List ResourcePart} {rendered : Expr → Prop}

theorem draft_explained (descends : Renderer.Descends rendered)
    (present : ∀ clause ∈ ResourceParts.clauses ⟨parts⟩, rendered clause.expr) :
    Yields (mapping.draft ⟨parts⟩).outcome
      (fun draft => Renderer.Refers rendered draft.aliases.params)
      (mapping.renderer.Explained rendered) := by
  induction parts using List.reverseRecOn with
  | nil => exact Yields.ok nofun
  | append_singleton parts part ih =>
    rw [ResourceParts.clauses_concat] at present
    have earlier := ih fun clause member => present clause (List.mem_append_left _ member)
    have first : Yields (mapping.draft ⟨parts⟩).outcome
        (fun draft => draft.Consistent parts ∧ Renderer.Refers rendered draft.aliases.params)
        (mapping.renderer.Explained rendered) := by
      refine Yields.of_cases ?_ fun _ => earlier.of_eq_error
      exact fun draft reached => ⟨Draft.consistent_draft reached, earlier.of_eq_ok reached⟩
    rw [draft_concat]
    apply first.logged
    rintro draft ⟨consistent, refers⟩
    apply Draft.addPart_explained descends _ consistent.addressed refers
    exact fun clause member => present clause (List.mem_append_right _ member)

theorem map_explained (mapping : Mapping) (root : String) (resource : ResourceParts) :
    Yields (mapping.map root resource).outcome (fun _ => True)
      (mapping.renderer.Explained (Clause.Rendered resource.clauses)) := by
  have descends := Clause.descends_rendered resource.clauses
  apply (draft_explained descends fun clause => Clause.rendered_of_mem).logged
  intro draft refers
  exact Draft.finish_explained descends refers root

theorem map_never_missing (standard : mapping.serializer = Literal.serialize)
    (spares : ∀ build type needed,
      Clause.Rendered (ResourceParts.clauses ⟨parts⟩) (.directive (.subQueries build)) →
      build mapping.schema type ≠ .error (.missingEntitySet needed)) (root needed : String) :
    (mapping.map root ⟨parts⟩).outcome ≠ .error (.missingEntitySet needed) := by
  intro failed
  cases (map_explained mapping root ⟨parts⟩).of_eq_error failed rfl with
  | serializer value type written =>
    rw [show mapping.renderer.serializer = Literal.serialize from standard] at written
    cases (Literal.serialize_spares mapping.schema value type).of_eq_error written
  | subQueries build type rendered built => exact spares build type needed rendered built

/-- Every state that a run of parts comes to is consistent: type and entity set are set together,
and then there is a segment; mark, accepted content and type are those behind the last part of the
path. From there no part of a path is accepted once the path has ended, a key makes the path
longer, and every other part of a path that has a type adds one segment. So mapping itself never
misses an entity set. Errors handed through from a serializer or a sub-query of the author's own are
left out: only they can be of this kind, and where they are not, none is. -/
theorem draft_states (mapping : Mapping) (parts : List ResourcePart) :
    (∀ draft, (mapping.draft ⟨parts⟩).outcome = .ok draft → draft.Consistent parts ∧
      ∀ part draft', part.isQuery = false →
        (Draft.addPart mapping draft part).outcome = .ok draft' →
        draft.terminal = none ∧
        (∀ key, part = .key key → ∃ more, more ≠ "" ∧ draft'.path = draft.path ++ more) ∧
        ((∀ key, part ≠ .key key) → draft'.type.isSome →
          ∃ segment, draft'.segments = draft.segments ++ [segment])) ∧
    (∀ root needed, (mapping.map root ⟨parts⟩).outcome = .error (.missingEntitySet needed) →
      mapping.renderer.Foreign (Clause.Rendered (ResourceParts.clauses ⟨parts⟩))
        (.missingEntitySet needed)) ∧
    (mapping.serializer = Literal.serialize →
      (∀ build type needed,
        Clause.Rendered (ResourceParts.clauses ⟨parts⟩) (.directive (.subQueries build)) →
        build mapping.schema type ≠ .error (.missingEntitySet needed)) →
      ∀ root needed,
        (mapping.map root ⟨parts⟩).outcome ≠ .error (.missingEntitySet needed)) := by
  refine ⟨?_, ?_, map_never_missing⟩
  · intro draft reached
    have consistent : draft.Consistent parts := Draft.consistent_draft reached
    refine ⟨consistent, ?_⟩
    intro part draft' path added
    have takes : draft.Takes part draft' := Draft.takes_addPart added
    refine ⟨(Draft.addPart_cases path added).1, ?_, takes.one_segment path⟩
    rintro key rfl
    exact takes.key_lengthens consistent
  · intro root needed failed
    exact (map_explained mapping root ⟨parts⟩).of_eq_error failed rfl

end Mapping

namespace Depot

def plain : Mapping where
  schema := schema

def searching : Mapping :=
  { plain with serializer := fun _ _ _ => .error (.missingEntitySet "a value") }

def keyed : ResourcePart := .key (.styled .parenthesized (.single (.int 7)))

end Depot

theorem Mapping.draft_states_items :
    (∃ draft, (Depot.plain.draft ⟨[.entitySet Depot.items]⟩).outcome = .ok draft ∧
      (∃ draft' more, (Draft.addPart Depot.plain draft Depot.keyed).outcome = .ok draft' ∧
        more ≠ "" ∧ draft'.path = draft.path ++ more) ∧
      ∃ draft' segment, (Draft.addPart Depot.plain draft .count).outcome = .ok draft' ∧
        draft'.segments = draft.segments ++ [segment]) ∧
    (∃ needed,
      (Depot.searching.map "http://svc" ⟨[.entitySet Depot.items, Depot.keyed]⟩).outcome =
        .error (.missingEntitySet needed) ∧
      Depot.searching.renderer.Foreign (Clause.Rendered []) (.missingEntitySet needed)) ∧
    ∀ root needed, (Depot.plain.map root ⟨[.entitySet Depot.items, Depot.keyed]⟩).outcome ≠
      .error (.missingEntitySet needed) := by
  have keyedDraft : (Draft.addPart Depot.plain (.ofSet Depot.items) Depot.keyed).outcome =
      .ok ((Draft.ofSet Depot.items).extendSegment "(7)" Depot.item) := by
    with_unfolding_all rfl
  have failed :
      (Depot.searching.map "http://svc" ⟨[.entitySet Depot.items, Depot.keyed]⟩).outcome =
        .error (.missingEntitySet "a value") := by
    with_unfolding_all rfl
  have steps := ((draft_states Depot.plain [.entitySet Depot.items]).1 (.ofSet Depot.items) rfl).2
  rcases (steps Depot.keyed _ rfl keyedDraft).2.1 _ rfl with ⟨more, filled, longer⟩
  rcases (steps .count _ rfl rfl).2.2 nofun rfl with ⟨segment, added⟩
  refine ⟨⟨.ofSet Depot.items, rfl, ⟨_, more, keyedDraft, filled, longer⟩,
    _, segment, rfl, added⟩, ⟨_, failed, (draft_states Depot.searching _).2.1 _ _ failed⟩, ?_⟩
  apply (draft_states Depot.plain _).2.2 rfl
  rintro build type needed ⟨clause, member, _⟩
  cases member

end ODataRequest
