import ODataRequest.Client.Basic
import ODataRequest.Proofs.Coverage
namespace ODataRequest

namespace Text

def Continued (text longer : String) : Prop := ∃ more, longer = text ++ more

theorem Continued.refl (text : String) : Continued text text := ⟨"", String.append_empty.symm⟩

theorem Continued.trans {first second third : String} (former : Continued first second)
    (latter : Continued second third) : Continued first third := by
  rcases former with ⟨more, rfl⟩
  rcases latter with ⟨rest, rfl⟩
  exact ⟨more ++ rest, String.append_assoc⟩

end Text

namespace Draft

def path (draft : Draft) : String := Text.joined "/" draft.segments

structure Rooted (draft : Draft) : Prop where
  typed : ∃ type, draft.type = some type
  begun : draft.segments ≠ []

/-- Path, aliases and query have only been added to. -/
structure Grown (draft draft' : Draft) : Prop where
  rooted : Rooted draft'
  path : Text.Continued draft.path draft'.path
  container : draft'.container = draft.container
  entitySet : draft'.entitySet = draft.entitySet
  aliases : draft.aliases.params <+: draft'.aliases.params
  query : draft.query <+: draft'.query

variable {mapping : Mapping} {draft draft' draft'' : Draft} {type : TypeRef}
  {parts : List ResourcePart} {part : ResourcePart}

theorem Grown.refl (rooted : Rooted draft) : Grown draft draft where
  rooted := rooted
  path := .refl _
  container := rfl
  entitySet := rfl
  aliases := List.prefix_refl _
  query := List.prefix_refl _

theorem Grown.trans (first : Grown draft draft') (second : Grown draft' draft'') :
    Grown draft draft'' where
  rooted := second.rooted
  path := first.path.trans second.path
  container := second.container.trans first.container
  entitySet := second.entitySet.trans first.entitySet
  aliases := first.aliases.trans second.aliases
  query := first.query.trans second.query

theorem path_addSegment (begun : draft.segments ≠ []) (segment : String) (type : TypeRef) :
    (draft.addSegment segment type).path = draft.path ++ ("/" ++ segment) :=
  Text.joined_concat begun "/" segment

theorem path_extendSegment (begun : draft.segments ≠ []) (text : String) (type : TypeRef) :
    (draft.extendSegment text type).path = draft.path ++ text := by
  obtain ⟨before, last, split⟩ : ∃ before last, draft.segments = before ++ [last] :=
    ⟨_, _, (List.dropLast_append_getLast begun).symm⟩
  have extended : (draft.extendSegment text type).segments = before ++ [last ++ text] := by
    simp [extendSegment, split]
  rw [path, path, extended, split]
  cases before with
  | nil => simp [Text.joined]
  | cons head rest =>
    have filled : head :: rest ≠ [] := List.cons_ne_nil head rest
    rw [Text.joined_concat filled, Text.joined_concat filled]
    simp only [String.append_assoc]

theorem extendSegment_begun (begun : draft.segments ≠ []) (text : String) (type : TypeRef) :
    (draft.extendSegment text type).segments ≠ [] := by
  simp [extendSegment, List.getLast?_eq_some_getLast begun]

theorem grown_of_continues (begun : draft.segments ≠ []) (continues : Continues draft draft') :
    Grown draft draft' := by
  cases continues with
  | segment segment type =>
    exact ⟨⟨⟨type, rfl⟩, by simp [addSegment]⟩, ⟨_, path_addSegment begun segment type⟩, rfl, rfl,
      List.prefix_refl _, List.prefix_refl _⟩
  | behind text type =>
    exact ⟨⟨⟨type, rfl⟩, extendSegment_begun begun text type⟩,
      ⟨_, path_extendSegment begun text type⟩, rfl, rfl, List.prefix_refl _, List.prefix_refl _⟩

theorem grown_addClause {clause : Clause} (rooted : Rooted draft)
    (added : addClause mapping draft clause = .ok draft') : Grown draft draft' := by
  rcases addClause_eq_ok.mp added with ⟨pair, _, _, rfl⟩
  exact ⟨⟨rooted.typed, rooted.begun⟩, .refl _, rfl, rfl,
    List.prefix_append _ _, List.prefix_append _ _⟩

theorem grown_addClauses {clauses : List Clause} (rooted : Rooted draft)
    (added : clauses.foldlM (addClause mapping) draft = .ok draft') : Grown draft draft' := by
  induction clauses generalizing draft with
  | nil =>
    cases added
    exact .refl rooted
  | cons head rest ih =>
    rw [List.foldlM_cons] at added
    rcases bind_eq_ok.mp added with ⟨next, stepped, added⟩
    have first := grown_addClause rooted stepped
    exact first.trans (ih first.rooted added)

theorem grown_addFunction {name : String} {arguments : List (String × Value)}
    (rooted : Rooted draft) (added : draft.addFunction type name arguments = .ok draft') :
    Grown draft draft' := by
  rcases addFunction_eq_ok added with ⟨set, f, aliases, texts, _, _, folded, rfl⟩
  have kept : draft.aliases.params <+: aliases.params := by
    apply foldlM_invariant (fun state => draft.aliases.params <+: state.1.params) _
      (List.prefix_refl _) folded
    intro state p state' _ before stepped
    unfold addArgument at stepped
    split at stepped
    · cases stepped
    · cases stepped
      exact before.trans (List.prefix_append _ _)
  exact ⟨⟨⟨f.result, rfl⟩, by simp [addSegment]⟩, ⟨_, path_addSegment rooted.begun _ f.result⟩, rfl,
    rfl, kept, List.prefix_refl _⟩

theorem grown_addPart (rooted : Rooted draft)
    (added : (addPart mapping draft part).outcome = .ok draft') : Grown draft draft' := by
  cases part with
  | query clauses => exact grown_addClauses rooted added
  | function name arguments =>
    rcases addFunction_of_addPart added with ⟨type, typed, added⟩
    exact grown_addFunction rooted added
  | _ =>
    rcases rooted.typed with ⟨type, typed⟩
    refine grown_of_continues rooted.begun (continues_addPart typed ?_ added)
    exact trivial

theorem grown_addParts (rooted : Rooted draft)
    (added : (parts.foldlM (addPart mapping) draft).outcome = .ok draft') : Grown draft draft' := by
  induction parts generalizing draft with
  | nil =>
    cases added
    exact .refl rooted
  | cons part rest ih =>
    rw [List.foldlM_cons] at added
    rcases Logged.outcome_bind_eq_ok.mp added with ⟨next, stepped, added⟩
    have first := grown_addPart rooted stepped
    exact first.trans (ih first.rooted added)

theorem rooted_addEntitySet {set : EntitySet}
    (added : (addPart mapping draft (.entitySet set)).outcome = .ok draft') : Rooted draft' := by
  cases typed : draft.type with
  | none =>
    have root : draft.addRoot (.entitySet set) = .ok draft' :=
      addRoot_of_addPart typed trivial added
    cases root
    exact ⟨⟨_, rfl⟩, by simp [addSegment]⟩
  | some type =>
    simp only [addPart, typed, addPathPart] at added
    split at added
    · cases added
    · rename_i untyped
      cases untyped
    · cases added

theorem rooted_draft {set : EntitySet} (reached : (mapping.draft ⟨parts⟩).outcome = .ok draft)
    (present : .entitySet set ∈ parts) : Rooted draft := by
  induction parts using List.reverseRecOn generalizing draft with
  | nil => cases present
  | append_singleton parts part ih =>
    rw [Mapping.draft_concat] at reached
    rcases Logged.outcome_bind_eq_ok.mp reached with ⟨earlier, reached, added⟩
    rcases List.mem_append.mp present with before | last
    · exact (grown_addPart (ih reached before) added).rooted
    · cases List.mem_singleton.mp last
      exact rooted_addEntitySet added

end Draft

/-- The second address has the path of the first in front and keeps its set and all its pairs. -/
structure Target.Extends (target target' : Target) : Prop where
  path : Text.Continued target.address.path target'.address.path
  container : target'.address.container = target.address.container
  entitySet : target'.address.entitySet = target.address.entitySet
  query : target.address.query ⊆ target'.address.query

theorem Target.Extends.refl (target : Target) : target.Extends target where
  path := .refl _
  container := rfl
  entitySet := rfl
  query := List.Subset.refl _

theorem Target.Extends.trans {first second third : Target} (former : first.Extends second)
    (latter : second.Extends third) : first.Extends third where
  path := former.path.trans latter.path
  container := latter.container.trans former.container
  entitySet := latter.entitySet.trans former.entitySet
  query := List.Subset.trans former.query latter.query

theorem ResourceParts.push_eq_ok {resource longer : ResourceParts} {part : ResourcePart}
    (pushed : resource.push part = .ok longer) : longer = ⟨resource.parts ++ [part]⟩ := by
  unfold push at pushed
  split at pushed
  · cases pushed
  · cases pushed
    rfl

theorem ResourceParts.clauses_concat (parts : List ResourcePart) (part : ResourcePart) :
    clauses ⟨parts ++ [part]⟩ = clauses ⟨parts⟩ ++ part.clauses := by
  simp [clauses]

namespace Mapping

theorem map_ofSet (mapping : Mapping) (root : String) (set : EntitySet) :
    (mapping.map root ⟨[.entitySet set]⟩).outcome =
      .ok ((Draft.ofSet set).addressed root set.pathType []) := by
  have drafted : (mapping.draft ⟨[.entitySet set]⟩).outcome = .ok (Draft.ofSet set) :=
    congrArg Logged.outcome (Draft.draft_ofSet mapping set)
  have distinct : ((Draft.ofSet set).query.map Prod.fst).Nodup := List.nodup_nil
  have bound : mapping.renderer.bindAliases (Draft.ofSet set).aliases = .ok [] :=
    Renderer.bindAliases_empty _
  apply Logged.outcome_bind_eq_ok.mpr
  refine ⟨Draft.ofSet set, drafted, ?_⟩
  exact (Draft.finish_eq_ok distinct).mpr ⟨set.pathType, [], rfl, bound, distinct, rfl⟩

/-- What is accepted with one more part is accepted without it. -/
theorem map_of_longer {mapping : Mapping} {root : String} {resource longer : ResourceParts}
    {set : EntitySet} {part : ResourcePart} {target' : Target}
    (present : .entitySet set ∈ resource.parts)
    (pushed : resource.push part = .ok longer)
    (accepted : (mapping.map root longer).outcome = .ok target')
    (identified : mapping.Identified longer.clauses) :
    ∃ target, (mapping.map root resource).outcome = .ok target ∧ target.Extends target' := by
  cases ResourceParts.push_eq_ok pushed
  rcases map_eq_ok accepted identified with
    ⟨draft', type', bindings', reached', gathered', typed', bound', unique, rfl⟩
  rw [draft_concat] at reached'
  rcases Logged.outcome_bind_eq_ok.mp reached' with ⟨draft, reached, added⟩
  have rooted : draft.Rooted := Draft.rooted_draft reached present
  have grown : draft.Grown draft' := Draft.grown_addPart rooted added
  have earlier : mapping.Identified resource.clauses := by
    rw [ResourceParts.clauses_concat] at identified
    exact identified_mono (List.subset_append_left _ _) identified
  have gathered : Draft.Gathered mapping resource.parts resource.clauses draft :=
    gathered_of_identified reached earlier
  -- The two drafts write their aliases in different orders, but the shorter one leads to no alias
  -- that the longer one has not bound.
  have covered : Renderer.Covered mapping.renderer draft.aliases.params bindings' := by
    apply Renderer.covered_mono grown.aliases.subset
    apply covered_of_carries gathered' identified bound'
    exact fun param found => carries_of_reached gathered' found
  rcases rooted.typed with ⟨type, typed⟩
  rcases Draft.finish_of_covered typed gathered.distinct grown.query.subset covered unique with
    ⟨bindings, part, finished⟩
  refine ⟨draft.addressed root type bindings, ?_, ?_⟩
  · exact Logged.outcome_bind_eq_ok.mpr ⟨draft, reached, finished⟩
  · exact {
      path := grown.path
      container := grown.container
      entitySet := congrArg (Option.map EntitySet.name) grown.entitySet
      query := List.append_subset.mpr ⟨
        List.subset_append_of_subset_left _ grown.query.subset,
        List.subset_append_of_subset_right _ part⟩ }

end Mapping

namespace RequestDraft

inductive Step
  | key (key : KeyValue)
  | styledKey (style : KeyStyle) (key : KeyValue)
  | rawKey (text : String)
  | property (name : String)
  | count
  | value
  | cast (target : String)
  | function (name : String) (arguments : List (String × Value))
  | query (build : Cursor → Except Error (List Clause))
  | interceptor (interceptor : ResponseInterceptor)

def take (draft : RequestDraft) : Step → Logged Error RequestDraft
  | .key key => draft.withKey key
  | .styledKey style key => draft.withKeyStyle style key
  | .rawKey text => draft.withRawKey text
  | .property name => draft.property name
  | .count => draft.count
  | .value => draft.value
  | .cast target => draft.cast target
  | .function name arguments => draft.function name arguments
  | .query build => draft.withQuery build
  | .interceptor interceptor => pure (draft.withInterceptor interceptor)

inductive Run (first : RequestDraft) : RequestDraft → Prop
  | start : Run first first
  | step {draft draft' : RequestDraft} (step : Step) :
      Run first draft → (draft.take step).outcome = .ok draft' → Run first draft'

structure Sound (draft : RequestDraft) : Prop where
  rooted : ∃ set, .entitySet set ∈ draft.resource.parts
  mapped : ∃ target, draft.target.outcome = .ok target

variable {draft draft' : RequestDraft} {step : Step} {target target' : Target}

theorem push_eq_ok {part : ResourcePart} (pushed : (draft.push part).outcome = .ok draft') :
    ∃ resource target, draft.resource.push part = .ok resource ∧
      draft' = { draft with resource := resource } ∧ draft'.target.outcome = .ok target := by
  unfold push at pushed
  rcases Logged.outcome_bind_eq_ok.mp pushed with ⟨resource, joined, pushed⟩
  rcases Logged.outcome_bind_eq_ok.mp pushed with ⟨target, mapped, same⟩
  cases same
  exact ⟨resource, target, joined, rfl, mapped⟩

theorem take_eq_ok (taken : (draft.take step).outcome = .ok draft') :
    (∃ part, (draft.push part).outcome = .ok draft') ∨
      ∃ interceptor, draft' = draft.withInterceptor interceptor := by
  cases step with
  | query build =>
    rcases Logged.outcome_bind_eq_ok.mp taken with ⟨cursor, _, taken⟩
    rcases Logged.outcome_bind_eq_ok.mp taken with ⟨clauses, _, pushed⟩
    exact .inl ⟨_, pushed⟩
  | interceptor interceptor =>
    cases taken
    exact .inr ⟨interceptor, rfl⟩
  | _ => exact .inl ⟨_, taken⟩

theorem sound_start {client : Client} {set : EntitySet}
    (started : client.entitySet set = .ok draft) : Sound draft := by
  rcases bind_eq_ok.mp started with ⟨_, _, started⟩
  rcases bind_eq_ok.mp started with ⟨resource, pushed, same⟩
  cases same
  cases ResourceParts.push_eq_ok pushed
  exact ⟨⟨set, List.mem_cons_self⟩, ⟨_, Mapping.map_ofSet client.mapping client.config.root set⟩⟩

theorem sound_take (sound : Sound draft) (taken : (draft.take step).outcome = .ok draft') :
    Sound draft' := by
  rcases take_eq_ok taken with ⟨part, pushed⟩ | ⟨interceptor, rfl⟩
  · rcases push_eq_ok pushed with ⟨resource, target, joined, rfl, mapped⟩
    cases ResourceParts.push_eq_ok joined
    rcases sound.rooted with ⟨set, present⟩
    exact ⟨⟨set, List.mem_append_left _ present⟩, target, mapped⟩
  · exact ⟨sound.rooted, sound.mapped⟩

theorem kept_take (taken : (draft.take step).outcome = .ok draft') :
    draft'.client = draft.client ∧ draft.resource.clauses ⊆ draft'.resource.clauses := by
  rcases take_eq_ok taken with ⟨part, pushed⟩ | ⟨interceptor, rfl⟩
  · rcases push_eq_ok pushed with ⟨resource, target, joined, rfl, mapped⟩
    cases ResourceParts.push_eq_ok joined
    refine ⟨rfl, ?_⟩
    rw [ResourceParts.clauses_concat]
    exact List.subset_append_left _ _
  · exact ⟨rfl, List.Subset.refl _⟩

theorem extends_take (sound : Sound draft) (taken : (draft.take step).outcome = .ok draft')
    (identified : draft'.client.mapping.Identified draft'.resource.clauses)
    (mapped : draft.target.outcome = .ok target) :
    ∃ target', draft'.target.outcome = .ok target' ∧ target.Extends target' := by
  rcases take_eq_ok taken with ⟨part, pushed⟩ | ⟨interceptor, rfl⟩
  · rcases push_eq_ok pushed with ⟨resource, target', joined, rfl, mapped'⟩
    rcases sound.rooted with ⟨set, present⟩
    rcases Mapping.map_of_longer present joined mapped' identified with ⟨earlier, before, extended⟩
    cases mapped.symm.trans before
    exact ⟨target', mapped', extended⟩
  · exact ⟨target, mapped, .refl target⟩

theorem sound_run (sound : Sound draft) (run : Run draft draft') : Sound draft' := by
  induction run with
  | start => exact sound
  | step step _ taken ih => exact sound_take ih taken

theorem extends_run (sound : Sound draft) (run : Run draft draft')
    (identified : draft'.client.mapping.Identified draft'.resource.clauses)
    (mapped : draft.target.outcome = .ok target) :
    ∃ target', draft'.target.outcome = .ok target' ∧ target.Extends target' := by
  induction run with
  | start => exact ⟨target, mapped, .refl target⟩
  | step step run taken ih =>
    rcases kept_take taken with ⟨client, more⟩
    -- Identities are given for the aliases of the last request; those before it have no others.
    have earlier := Mapping.identified_mono more (client ▸ identified)
    rcases ih earlier with ⟨middle, reached, former⟩
    rcases extends_take (sound_run sound run) taken identified reached with
      ⟨target', mapped', latter⟩
    exact ⟨target', mapped', former.trans latter⟩

/-- A request in hand always has an address, and whatever is added to it extends this address.
The same holds for the parts of a request: if they are accepted with one more, they are accepted
without it. -/
theorem target_extends :
    (∀ client set first draft, Client.entitySet client set = .ok first → Run first draft →
      ∃ target, draft.target.outcome = .ok target ∧ ∀ draft', Run draft draft' →
        draft'.client.mapping.Identified draft'.resource.clauses →
        ∃ target', draft'.target.outcome = .ok target' ∧ target.Extends target') ∧
    ∀ (mapping : Mapping) root resource longer set part target',
      .entitySet set ∈ resource.parts → resource.push part = .ok longer →
      (mapping.map root longer).outcome = .ok target' → mapping.Identified longer.clauses →
      ∃ target, (mapping.map root resource).outcome = .ok target ∧ target.Extends target' := by
  constructor
  · intro client set first draft started run
    have sound : Sound draft := sound_run (sound_start started) run
    rcases sound.mapped with ⟨target, mapped⟩
    refine ⟨target, mapped, ?_⟩
    intro draft' further identified
    exact extends_run sound further identified mapped
  · intro mapping root resource longer set part target' present pushed accepted identified
    exact Mapping.map_of_longer present pushed accepted identified

def sampleClient : Client where
  config := .ofRoot "http://svc"
  schema := Mapping.Orders.schema
  tools := { transport := fun _ => .error "offline" }

def sampleStart : RequestDraft where
  client := sampleClient
  set := Mapping.Orders.orders
  resource := ⟨[.entitySet Mapping.Orders.orders]⟩

def sampleLatest : RequestDraft := { sampleStart with resource := ⟨Mapping.Orders.path⟩ }

theorem target_extends_latest :
    (sampleClient.entitySet Mapping.Orders.orders = .ok sampleStart ∧
      Run sampleStart sampleLatest ∧
      ∃ target target', sampleStart.target.outcome = .ok target ∧
        sampleLatest.target.outcome = .ok target' ∧ target.Extends target') ∧
    ∃ target, (Mapping.map { schema := Mapping.Orders.schema } "http://svc"
        ⟨Mapping.Orders.path⟩).outcome = .ok target ∧
      target.Extends Mapping.Orders.latestTarget := by
  have shorter := target_extends.2 { schema := Mapping.Orders.schema } "http://svc"
    ⟨Mapping.Orders.path⟩ Mapping.Orders.latest Mapping.Orders.orders _ Mapping.Orders.latestTarget
    List.mem_cons_self rfl Mapping.Orders.map_latest Mapping.Orders.identified_latest
  have started : sampleClient.entitySet Mapping.Orders.orders = .ok sampleStart := by
    with_unfolding_all rfl
  have run : Run sampleStart sampleLatest := by
    rcases shorter with ⟨target, mapped, _⟩
    apply Run.step (.function "Latest" [("n", .int 3)]) .start
    apply Logged.outcome_bind_eq_ok.mpr
    exact ⟨⟨Mapping.Orders.path⟩, rfl, Logged.outcome_bind_eq_ok.mpr ⟨target, mapped, rfl⟩⟩
  have identified : Mapping.Identified { schema := Mapping.Orders.schema }
      sampleLatest.resource.clauses :=
    Mapping.identified_mono (List.nil_subset _) Mapping.Orders.identified_latest
  rcases target_extends.1 sampleClient _ _ _ started .start with ⟨target, mapped, further⟩
  rcases further sampleLatest run identified with ⟨target', mapped', extended⟩
  exact ⟨⟨started, run, target, target', mapped, mapped', extended⟩, shorter⟩

end RequestDraft
end ODataRequest
