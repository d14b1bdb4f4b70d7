import ODataRequest.Proofs.ClauseText
import ODataRequest.Proofs.CompositeKeys
import ODataRequest.Proofs.PathStates
import Mathlib.Data.List.Perm.Subperm
namespace ODataRequest

/-!
The arguments of bound functions. They are looked up by name for each declared parameter, so a call
is accepted exactly if its arguments match the parameters one to one. Each travels as an alias that
is named after the parameter, and nothing behind the call removes that alias.
-/

def aliasName (name : String) : String :=
  if name.toList.head? = some '@' then name else "@" ++ name

@[simp] theorem name_create (id : AliasId) (name : String) (payload : AliasPayload) :
    (AliasOf.create id name payload).name = aliasName name := rfl

theorem aliasName_of_bare {name : String} (bare : name.toList.head? ≠ some '@') :
    aliasName name = "@" ++ name := if_neg bare

theorem lookupNamed_isSome {α : Type} {name : String} {entries : List (String × α)} :
    (∃ value, lookupNamed name entries = some value) ↔ name ∈ entries.map Prod.fst := by
  constructor
  · rintro ⟨value, found⟩
    exact List.mem_map_of_mem (mem_of_lookupNamed found)
  · intro member
    cases found : lookupNamed name entries with
    | none => exact absurd member (not_mem_of_lookupNamed found)
    | some value => exact ⟨value, rfl⟩

theorem lookupNamed_perm {α : Type} {entries entries' : List (String × α)}
    (distinct : (entries.map Prod.fst).Nodup) (same : entries.Perm entries') (name : String) :
    lookupNamed name entries = lookupNamed name entries' := by
  have distinct' : (entries'.map Prod.fst).Nodup := (same.map Prod.fst).nodup_iff.mp distinct
  ext value
  rw [lookupNamed_eq_some_iff distinct, lookupNamed_eq_some_iff distinct', same.mem_iff]

namespace Draft

section Fold

variable {f : BoundFunction} {arguments arguments' : List (String × Value)}
  {ps : List FunctionParameter} {state state' : AliasList × List String}

theorem addArgument_isOk {p : FunctionParameter} :
    (∃ state', addArgument f arguments state p = .ok state') ↔ p.name ∈ arguments.map Prod.fst := by
  rw [← lookupNamed_isSome, addArgument]
  cases lookupNamed p.name arguments <;> simp

theorem addArguments_isOk :
    (∃ state', ps.foldlM (addArgument f arguments) state = .ok state') ↔
      ∀ p ∈ ps, p.name ∈ arguments.map Prod.fst := by
  induction ps generalizing state with
  | nil => exact ⟨fun _ _ member => absurd member List.not_mem_nil, fun _ => ⟨state, rfl⟩⟩
  | cons p rest ih =>
    rw [List.forall_mem_cons, ← @addArgument_isOk f _ state]
    constructor
    · rintro ⟨state', folded⟩
      rw [List.foldlM_cons] at folded
      rcases bind_eq_ok.mp folded with ⟨next, stepped, folded⟩
      exact ⟨⟨next, stepped⟩, ih.mp ⟨state', folded⟩⟩
    · rintro ⟨⟨next, stepped⟩, others⟩
      rcases (@ih next).mpr others with ⟨state', folded⟩
      exact ⟨state', bind_eq_ok.mpr ⟨next, stepped, folded⟩⟩

theorem addArguments_texts (folded : ps.foldlM (addArgument f arguments) state = .ok state') :
    state'.2 = state.2 ++ ps.map fun p => p.name ++ "=" ++ aliasName p.name := by
  induction ps generalizing state with
  | nil =>
    cases folded
    exact (List.append_nil _).symm
  | cons p rest ih =>
    rw [List.foldlM_cons] at folded
    rcases bind_eq_ok.mp folded with ⟨next, stepped, folded⟩
    have written : next.2 = state.2 ++ [p.name ++ "=" ++ aliasName p.name] := by
      unfold addArgument at stepped
      split at stepped <;> cases stepped
      rfl
    rw [ih folded, written, List.append_assoc]
    rfl

theorem addArguments_congr
    (same : ∀ name, lookupNamed name arguments = lookupNamed name arguments') :
    ps.foldlM (addArgument f arguments) state = ps.foldlM (addArgument f arguments') state := by
  have each : addArgument f arguments = addArgument f arguments' := by
    funext state p
    rw [addArgument, addArgument, same]
  rw [each]

end Fold

variable {mapping : Mapping} {draft draft' : Draft} {set : EntitySet} {type : TypeRef}
  {name : String} {f : BoundFunction} {arguments reordered : List (String × Value)}

theorem addFunction_isOk (chosen : draft.entitySet = some set)
    (found : set.boundFunction type name = .ok f) :
    (∃ draft', draft.addFunction type name arguments = .ok draft') ↔
      arguments.length = f.parameters.length ∧
        ∀ p ∈ f.parameters, p.name ∈ arguments.map Prod.fst := by
  unfold addFunction
  rw [chosen]
  dsimp only
  rw [found, ← @addArguments_isOk f _ _ (draft.aliases, [])]
  constructor
  · rintro ⟨draft', added⟩
    rcases bind_eq_ok.mp added with ⟨_, same, added⟩
    cases same
    split at added
    · cases added
    · rename_i counted
      rcases bind_eq_ok.mp added with ⟨state', folded, _⟩
      exact ⟨not_not.mp counted, state', folded⟩
  · rintro ⟨counted, ⟨aliases, texts⟩, folded⟩
    change ∃ draft', (if arguments.length ≠ f.parameters.length then _ else _) = Except.ok draft'
    rw [if_neg (not_not.mpr counted), folded]
    exact ⟨_, rfl⟩

/-- Among distinct parameters no argument can serve two, so the count leaves no argument over. -/
theorem names_perm_iff (distinct : (f.parameters.map FunctionParameter.name).Nodup) :
    (arguments.map Prod.fst).Perm (f.parameters.map FunctionParameter.name) ↔
      arguments.length = f.parameters.length ∧
        ∀ p ∈ f.parameters, p.name ∈ arguments.map Prod.fst := by
  constructor
  · intro same
    have count := same.length_eq
    rw [List.length_map, List.length_map] at count
    exact ⟨count, fun p member => same.mem_iff.mpr (List.mem_map_of_mem member)⟩
  · rintro ⟨count, given⟩
    have part : f.parameters.map FunctionParameter.name ⊆ arguments.map Prod.fst := by
      intro other member
      rcases List.mem_map.mp member with ⟨p, declared, rfl⟩
      exact given p declared
    have shorter : (arguments.map Prod.fst).length ≤
        (f.parameters.map FunctionParameter.name).length := by
      rw [List.length_map, List.length_map, count]
    exact ((distinct.subperm part).perm_of_length_le shorter).symm

theorem addPart_function (opened : draft.terminal = none) (typed : draft.type = some type) :
    addPart mapping draft (.function name arguments) =
      .ofExcept (draft.addFunction type name arguments) := by
  simp only [addPart, opened, typed, addPathPart]

theorem addFunction_perm (distinct : (arguments.map Prod.fst).Nodup)
    (same : arguments.Perm reordered) :
    draft.addFunction type name arguments = draft.addFunction type name reordered := by
  unfold addFunction
  simp only [same.length_eq, addArguments_congr (lookupNamed_perm distinct same)]

theorem segment_of_addFunction (chosen : draft.entitySet = some set)
    (found : set.boundFunction type name = .ok f)
    (added : draft.addFunction type name arguments = .ok draft') :
    draft'.segments = draft.segments ++ [f.fullName ++ "(" ++ Text.joined ","
        (f.parameters.map fun p => p.name ++ "=" ++ aliasName p.name) ++ ")"] ∧
      draft'.type = some f.result := by
  rcases addFunction_eq_ok added with ⟨set', f', aliases, texts, chosen', found', folded, rfl⟩
  cases chosen.symm.trans chosen'
  cases found.symm.trans found'
  have written := addArguments_texts folded
  rw [List.nil_append] at written
  dsimp only at written
  subst written
  exact ⟨rfl, rfl⟩

theorem aliases_of_addFunction (placed : Placed draft.aliases.params)
    (chosen : draft.entitySet = some set) (found : set.boundFunction type name = .ok f)
    (added : draft.addFunction type name arguments = .ok draft') {p : FunctionParameter}
    (member : p ∈ f.parameters) :
    ∃ value place, (p.name, value) ∈ arguments ∧
      .create (.argument place) p.name (.constant value p.type) ∈ draft'.aliases.params := by
  rcases addFunction_eq_ok added with ⟨set', f', aliases, texts, chosen', found', folded, rfl⟩
  cases chosen.symm.trans chosen'
  cases found.symm.trans found'
  rcases addArguments_eq_ok folded placed with ⟨_, created, appended, _, complete⟩
  rcases complete p member with ⟨value, place, looked, present⟩
  refine ⟨value, place, mem_of_lookupNamed looked, ?_⟩
  dsimp only at appended ⊢
  rw [appended]
  exact List.mem_append_right _ present

section Path

variable {parts before after : List ResourcePart} {part : ResourcePart}

theorem placed_addPart (path : part.isQuery = false) (placed : Placed draft.aliases.params)
    (added : (addPart mapping draft part).outcome = .ok draft') : Placed draft'.aliases.params := by
  cases part with
  | query clauses => cases path
  | function name arguments =>
    rcases addFunction_of_addPart added with ⟨type, _, added⟩
    rcases addFunction_eq_ok added with ⟨set, f, aliases, texts, _, _, folded, rfl⟩
    exact (addArguments_eq_ok folded placed).1
  | _ =>
    rw [(framed_addPart (by exact trivial) added).aliases]
    exact placed

theorem placed_draft (path : ∀ part ∈ parts, part.isQuery = false)
    (reached : (mapping.draft ⟨parts⟩).outcome = .ok draft) : Placed draft.aliases.params := by
  induction parts using List.reverseRecOn generalizing draft with
  | nil =>
    cases reached
    exact fun _ member => absurd member List.not_mem_nil
  | append_singleton parts part ih =>
    rw [Mapping.draft_concat] at reached
    rcases Logged.outcome_bind_eq_ok.mp reached with ⟨earlier, reached, added⟩
    have placed := ih (fun other member => path other (List.mem_append_left _ member)) reached
    exact placed_addPart (path part (List.mem_append_right _ List.mem_cons_self)) placed added

theorem draft_split (reached : (mapping.draft ⟨before ++ part :: after⟩).outcome = .ok draft') :
    ∃ earlier next, (mapping.draft ⟨before⟩).outcome = .ok earlier ∧
      (addPart mapping earlier part).outcome = .ok next ∧
      (after.foldlM (addPart mapping) next).outcome = .ok draft' := by
  rw [Mapping.draft, List.foldlM_append] at reached
  rcases Logged.outcome_bind_eq_ok.mp reached with ⟨earlier, begun, reached⟩
  rw [List.foldlM_cons] at reached
  rcases Logged.outcome_bind_eq_ok.mp reached with ⟨next, stepped, reached⟩
  exact ⟨earlier, next, begun, stepped, reached⟩

theorem rooted_of_reached (reached : (mapping.draft ⟨parts⟩).outcome = .ok draft)
    (typed : draft.type = some type) : Rooted draft :=
  ⟨⟨type, typed⟩, (consistent_draft reached).begun (by rw [typed]; rfl)⟩

end Path

end Draft

namespace ResourceParts

variable {resource longer : ResourceParts} {parts before : List ResourcePart} {part : ResourcePart}

theorem parts_of_pushAll (pushed : resource.pushAll parts = .ok longer) :
    longer = ⟨resource.parts ++ parts⟩ := by
  induction parts generalizing resource with
  | nil =>
    cases pushed
    rw [List.append_nil]
  | cons part rest ih =>
    rw [pushAll, List.foldlM_cons] at pushed
    rcases bind_eq_ok.mp pushed with ⟨next, stepped, pushed⟩
    rw [ih pushed, push_eq_ok stepped, List.append_assoc]
    rfl

theorem path_of_pushAll (pushed : empty.pushAll parts = .ok resource)
    (earlier : before ++ [part] <+: parts) (path : part.isQuery = false) :
    ∀ other ∈ before, other.isQuery = false := by
  obtain ⟨after, rfl⟩ := earlier
  rw [List.append_assoc, List.singleton_append] at pushed
  obtain ⟨begun, next, reached, stepped, _⟩ := foldlM_split pushed
  have parts_begun : begun = ⟨[] ++ before⟩ := parts_of_pushAll reached
  unfold push at stepped
  split at stepped
  · cases stepped
  · rename_i allowed
    intro other member
    rw [parts_begun, List.nil_append, path, Bool.not_false, Bool.and_true, hasQuery] at allowed
    exact Bool.eq_false_iff.mpr fun query =>
      allowed (List.any_eq_true.mpr ⟨other, member, query⟩)

end ResourceParts

namespace Mapping

section Calls

variable {mapping : Mapping} {root : String} {resource : ResourceParts} {target : Target}

theorem bound_of_mem {draft : Draft} {param : Alias}
    (reached : (mapping.draft resource).outcome = .ok draft)
    (finished : draft.finish mapping root = .ok target) (member : param ∈ draft.aliases.params) :
    ∃ text, (mapping.renderer.aliasText param).outcome = .ok text ∧
      (param.name, text) ∈ target.address.query := by
  rcases Draft.pairs_of_draft reached with ⟨_, distinct⟩
  rcases (Draft.finish_eq_ok distinct).mp finished with ⟨type, bindings, _, bound, _, rfl⟩
  rcases Renderer.bindAliases_binding bound with ⟨done, met, binding⟩
  have written : param ∈ done := (binding.rooted param member).resolve_right List.not_mem_nil
  rcases binding.written param written with ⟨text, rendered, paired⟩
  exact ⟨text, rendered, List.mem_append_right _ paired⟩

theorem distinct_of_accepted (accepted : (mapping.map root resource).outcome = .ok target) :
    (target.address.query.map Prod.fst).Nodup := by
  rcases Logged.outcome_bind_eq_ok.mp accepted with ⟨draft, reached, finished⟩
  rcases Draft.pairs_of_draft reached with ⟨_, distinct⟩
  rcases (Draft.finish_eq_ok distinct).mp finished with ⟨type, bindings, _, _, distinct', rfl⟩
  exact distinct'

theorem argument_bound {parts before : List ResourcePart} {draft : Draft} {set : EntitySet}
    {type : TypeRef} {name : String} {f : BoundFunction} {arguments : List (String × Value)}
    (chosen : draft.entitySet = some set) (typed : draft.type = some type)
    (found : set.boundFunction type name = .ok f)
    (pushed : ResourceParts.empty.pushAll parts = .ok resource)
    (earlier : before ++ [.function name arguments] <+: parts)
    (begun : (mapping.draft ⟨before⟩).outcome = .ok draft)
    (accepted : (mapping.map root resource).outcome = .ok target) {p : FunctionParameter}
    (member : p ∈ f.parameters) :
    ∃ value text, (p.name, value) ∈ arguments ∧
      mapping.serializer mapping.schema value p.type = .ok text ∧
      (aliasName p.name, text) ∈ target.address.query := by
  have path := ResourceParts.path_of_pushAll pushed earlier rfl
  obtain ⟨after, rfl⟩ := earlier
  cases ResourceParts.parts_of_pushAll pushed
  rcases Logged.outcome_bind_eq_ok.mp accepted with ⟨final, reached, finished⟩
  have reached' : (mapping.draft ⟨before ++ .function name arguments :: after⟩).outcome =
      .ok final := by
    rw [← reached, ← @List.singleton_append _ _ after, ← List.append_assoc]
    rfl
  rcases Draft.draft_split reached' with ⟨draft₁, next, begun₁, stepped, later⟩
  cases begun.symm.trans begun₁
  have rooted := (Draft.grown_addPart (Draft.rooted_of_reached begun typed) stepped).rooted
  have grown := Draft.grown_addParts rooted later
  rcases Draft.addFunction_of_addPart stepped with ⟨type₁, typed₁, added⟩
  cases typed.symm.trans typed₁
  have placed := Draft.placed_draft path begun
  rcases Draft.aliases_of_addFunction placed chosen found added member with
    ⟨value, place, given, present⟩
  rcases bound_of_mem reached finished (grown.aliases.subset present) with
    ⟨text, serialized, paired⟩
  exact ⟨value, text, given, serialized, paired⟩

/-- A call is accepted exactly if the names of its arguments are those of the parameters in some
order. In whatever order they are given, the parameters stand in declared order, and in an accepted
request each has the literal of its own argument. -/
theorem bound_function_call {mapping : Mapping} {draft : Draft} {set : EntitySet}
    {type : TypeRef} {name : String} {f : BoundFunction} {arguments reordered : List (String × Value)}
    (opened : draft.terminal = none) (chosen : draft.entitySet = some set)
    (typed : draft.type = some type) (found : set.boundFunction type name = .ok f)
    (distinct : (f.parameters.map FunctionParameter.name).Nodup)
    (bare : ∀ p ∈ f.parameters, p.name.toList.head? ≠ some '@')
    (same : arguments.Perm reordered) :
    ((∃ draft', (Draft.addPart mapping draft (.function name arguments)).outcome = .ok draft') ↔
        (arguments.map Prod.fst).Perm (f.parameters.map FunctionParameter.name)) ∧
      (∀ draft', (Draft.addPart mapping draft (.function name arguments)).outcome = .ok draft' →
        draft'.segments = draft.segments ++ [f.fullName ++ "(" ++ Text.joined ","
            (f.parameters.map fun p => p.name ++ "=" ++ ("@" ++ p.name)) ++ ")"] ∧
          draft'.type = some f.result ∧
          (Draft.addPart mapping draft (.function name reordered)).outcome = .ok draft') ∧
      ∀ parts before resource root target, ResourceParts.empty.pushAll parts = .ok resource →
        before ++ [.function name arguments] <+: parts →
        (mapping.draft ⟨before⟩).outcome = .ok draft →
        (mapping.map root resource).outcome = .ok target →
        (target.address.query.map Prod.fst).Nodup ∧
          ∀ p ∈ f.parameters, ∃ value text, (p.name, value) ∈ arguments ∧
            mapping.serializer mapping.schema value p.type = .ok text ∧
            ("@" ++ p.name, text) ∈ target.address.query := by
  have accepted_iff :
      (∃ draft', (Draft.addPart mapping draft (.function name arguments)).outcome = .ok draft') ↔
        (arguments.map Prod.fst).Perm (f.parameters.map FunctionParameter.name) := by
    rw [Draft.addPart_function opened typed, Draft.names_perm_iff distinct,
      ← Draft.addFunction_isOk chosen found]
    rfl
  refine ⟨accepted_iff, ?_, ?_⟩
  · intro draft' added
    have named := accepted_iff.mp ⟨draft', added⟩
    rw [Draft.addPart_function opened typed] at added ⊢
    rcases Draft.segment_of_addFunction chosen found added with ⟨segments, result⟩
    have texts : (f.parameters.map fun p => p.name ++ "=" ++ aliasName p.name) =
        f.parameters.map fun p => p.name ++ "=" ++ ("@" ++ p.name) := by
      apply List.map_congr_left
      intro p member
      rw [aliasName_of_bare (bare p member)]
    rw [texts] at segments
    rw [← Draft.addFunction_perm (named.nodup_iff.mpr distinct) same]
    exact ⟨segments, result, added⟩
  · intro parts before resource root target pushed earlier begun accepted
    refine ⟨distinct_of_accepted accepted, fun p member => ?_⟩
    rw [← aliasName_of_bare (bare p member)]
    exact argument_bound chosen typed found pushed earlier begun accepted member

end Calls

namespace Window

def between : BoundFunction :=
  ⟨"Orders", "Between", .collection Orders.order, [⟨"low", .int64⟩, ⟨"high", .int64⟩],
    .collection Orders.order⟩

def orders : EntitySet := (EntitySet.ofType "Main" "Orders" Orders.order).withFunction between

def arguments : List (String × Value) := [("high", .int 9), ("low", .int 3)]

def parts : List ResourcePart := [.entitySet orders] ++ [.function "Between" arguments]

def low : Alias := .create (.argument 0) "low" (.constant (.int 3) .int64)

def high : Alias := .create (.argument 1) "high" (.constant (.int 9) .int64)

def draft : Draft where
  aliases := ⟨[low, high]⟩
  container := some "Main"
  entitySet := some orders
  type := some (.collection Orders.order)
  segments := ["Orders", "Orders.Between(low=@low,high=@high)"]

def target : Target :=
  draft.addressed "http://svc" (.collection Orders.order) [("@low", "3"), ("@high", "9")]

theorem bindAliases_draft :
    (Renderer.standard Orders.schema).bindAliases draft.aliases =
      .ok [("@low", "3"), ("@high", "9")] := by
  let writer := Renderer.standard Orders.schema
  have three : writer.aliasText low = ⟨[], .ok "3"⟩ := rfl
  have nine : writer.aliasText high = ⟨[], .ok "9"⟩ := rfl
  calc writer.bindAliases draft.aliases
    _ = writer.bindPending [.argument 0, .argument 1] [low, high] [] := rfl
    _ = writer.bindPending [.argument 0, .argument 1] [high] [("@low", "3")] :=
      Renderer.bindPending_cons three rfl
    _ = writer.bindPending [.argument 0, .argument 1] [] [("@low", "3"), ("@high", "9")] :=
      Renderer.bindPending_cons nine rfl
    _ = .ok [("@low", "3"), ("@high", "9")] := by
      rw [Renderer.bindPending]

theorem map_parts :
    (Mapping.map { schema := Orders.schema } "http://svc" ⟨parts⟩).outcome = .ok target := by
  have drafted : (Mapping.draft { schema := Orders.schema } ⟨parts⟩).outcome = .ok draft := rfl
  have finished : draft.finish { schema := Orders.schema } "http://svc" = .ok target :=
    (Draft.finish_eq_ok (show (draft.query.map Prod.fst).Nodup from List.nodup_nil)).mpr
      ⟨_, _, rfl, bindAliases_draft, by decide, rfl⟩
  exact Logged.outcome_bind_eq_ok.mpr ⟨draft, drafted, finished⟩

end Window

theorem bound_function_call_window :
    ∃ draft', (Draft.addPart { schema := Orders.schema } (Draft.ofSet Window.orders)
          (.function "Between" Window.arguments)).outcome = .ok draft' ∧
      draft'.segments = ["Orders", "Orders.Between(low=@low,high=@high)"] ∧
      (Draft.addPart { schema := Orders.schema } (Draft.ofSet Window.orders)
          (.function "Between" Window.arguments.reverse)).outcome = .ok draft' ∧
      ∀ p ∈ Window.between.parameters, ∃ value text, (p.name, value) ∈ Window.arguments ∧
        Literal.serialize Orders.schema value p.type = .ok text ∧
        ("@" ++ p.name, text) ∈ Window.target.address.query := by
  have bare : ∀ p ∈ Window.between.parameters, p.name.toList.head? ≠ some '@' := by decide
  obtain ⟨accepted, written, bound⟩ :=
    @bound_function_call { schema := Orders.schema } (Draft.ofSet Window.orders) Window.orders
      (.collection Orders.order) "Between" Window.between Window.arguments _ rfl rfl rfl rfl
      (by decide) bare (List.reverse_perm Window.arguments).symm
  have names : (Window.arguments.map Prod.fst).Perm
      (Window.between.parameters.map FunctionParameter.name) := .swap ..
  obtain ⟨draft', added⟩ := accepted.mpr names
  obtain ⟨segments, _, reordered⟩ := written draft' added
  obtain ⟨_, literals⟩ := bound Window.parts [.entitySet Window.orders] ⟨Window.parts⟩ _ _ rfl
    List.prefix_rfl rfl Window.map_parts
  exact ⟨draft', added, segments, reordered, literals⟩

end Mapping
end ODataRequest
