import ODataRequest.Proofs.AliasBinding
import ODataRequest.Proofs.Evaluation
import ODataRequest.Resource.Mapping
namespace ODataRequest

/-!
Rendering onto a list of aliases: each is put there as soon as it is met, behind those that other
expressions left. What was collected before plays no part in the text. Collecting follows the
rendering that only notes what it meets, gives the same result and puts what was met behind the
list.
-/

/-- A computation that adds to a list of aliases. What it added before it failed stays. -/
abbrev Collecting := ExceptT Error (StateM AliasList)

namespace Collecting

variable {α : Type}

def runOn (x : Collecting α) (aliases : AliasList) : Except Error α × AliasList :=
  StateT.run (ExceptT.run x) aliases

def note (param : Alias) : Collecting Unit := modify fun aliases => aliases.push param

end Collecting

namespace Renderer

def collect (renderer : Renderer) (e : Expr) (scope : Scope) : Collecting Rendering :=
  match e with
  | .root symbol => pure (anchor symbol scope)
  | .property parent name result =>
    match result with
    | .undecided _ => throw (.ambiguousResult name)
    | .type _ =>
      match parent with
      | none => pure (.ofText name)
      | some parent => do
        let path ← collect renderer parent scope.nested
        let text := match path.text with
          | some path => path ++ "/" ++ name
          | none => name
        pure ⟨path.root, some text⟩
  | .call c =>
    match _reduced : c.reduce renderer.schema with
    | .error e => throw e
    | .ok (.rawText paths write) => do
      let texts ← paths.attach.mapM fun path => do
        let rendering ← collect renderer path.1.2 .it
        pure (path.1.1, rendering.textOrEmpty)
      let text ← ofExcept (renderer.serializer renderer.schema (.raw (write texts)) .raw)
      pure (.ofText text)
    | .ok (.call c') => do
      ofExcept (checkCall c')
      let receiver ← match _present : c'.receiver with
        | some receiver => collect renderer receiver scope.nested
        | none => pure .empty
      let operands ← c'.args.attach.mapM fun argument => do
        if argument.1.2.directiveKind?.isSome || isDirective argument.1.1 then
          throw (.unresolvedDirective argument.1.2.name c'.signature.text)
        else
          let rendering ← collect renderer argument.1.1 scope.atTop
          pure (rendering.root,
            operandText c'.signature.layout argument.1.1 rendering.textOrEmpty)
      pure ⟨firstRoot (receiver.root :: operands.map Prod.fst),
        some (callText c'.signature.layout receiver.text (operands.map Prod.snd))⟩
  | .value v type => do
    let text ← ofExcept (renderer.serializer renderer.schema v (type.getD v.defaultType))
    pure (.ofText text)
  | .aliased param _ => do
    .note param
    pure (.ofText param.name)
  | .directive d => throw (.unresolvedDirective d.kind.text "<constant>")
  | .inContext inner context => collect renderer inner (scope.inContext context)
  | .named inner symbol => do
    let rendering ← collect renderer inner scope
    pure ⟨some symbol, namedText symbol rendering.text⟩
  | .assembled parts _ => do
    let renderings ← parts.attach.mapM fun part =>
      match _held : part.1 with
      | .text text => pure (.ofText text)
      | .expr e => collect renderer e scope
    pure ⟨firstRoot (renderings.map Rendering.root),
      some (String.join (renderings.map Rendering.textOrEmpty))⟩
termination_by e
decreasing_by
  · exact .single .parent
  · exact .single (CallOf.precedes_of_path _reduced path.2)
  · exact .single (CallOf.precedes_of_arg _reduced argument.2)
  · exact .single (CallOf.precedes_of_receiver _reduced _present)
  · exact .single .inContext
  · exact .single .named
  · exact .single (.assembled (_held ▸ part.2))

end Renderer

section Unmet

variable {known met : List AliasId}

/-- The list without those whose identity occurred further to the front. -/
def firstOccurrences (params : List Alias) : List Alias :=
  params.eraseDupsBy fun later earlier => later.id == earlier.id

theorem unmet_congr (same : ∀ id, id ∈ known ↔ id ∈ met) (params : List Alias) :
    unmet known params = unmet met params := by
  induction params generalizing known met with
  | nil => rfl
  | cons head rest ih =>
    have rest_same : unmet (head.id :: known) rest = unmet (head.id :: met) rest :=
      ih fun id => by simp [same]
    rw [unmet, unmet, ih same, rest_same]
    simp only [List.contains_iff_mem, same]

theorem unmet_append (known : List AliasId) (params others : List Alias) :
    unmet known (params ++ others) =
      unmet known params ++ unmet ((unmet known params).map AliasOf.id ++ known) others := by
  induction params generalizing known with
  | nil => rfl
  | cons head rest ih =>
    rw [List.cons_append, unmet, unmet]
    split
    · exact ih known
    · rw [ih, List.cons_append, List.map_cons]
      congr 2
      apply unmet_congr
      intro id
      simp only [List.mem_append, List.mem_cons, List.cons_append]
      tauto

theorem unmet_eq_nil {params : List Alias} (all : ∀ param ∈ params, param.id ∈ known) :
    unmet known params = [] := by
  induction params with
  | nil => rfl
  | cons head rest ih =>
    have head_known : known.contains head.id = true :=
      List.contains_iff_mem.mpr (all head List.mem_cons_self)
    rw [unmet, if_pos head_known]
    exact ih fun param member => all param (List.mem_cons_of_mem _ member)

theorem unmet_eq (known : List AliasId) (params : List Alias) :
    unmet known params =
      firstOccurrences (params.filter fun param => !known.contains param.id) := by
  induction params generalizing known with
  | nil => rfl
  | cons head rest ih =>
    rw [unmet]
    by_cases head_known : known.contains head.id
    · rw [if_pos head_known, ih, List.filter_cons_of_neg (by simpa using head_known)]
    · rw [if_neg head_known, ih, List.filter_cons_of_pos (by simpa using head_known),
        firstOccurrences, firstOccurrences, List.eraseDupsBy_cons, List.filter_filter]
      congr 3
      funext param
      rw [List.contains_cons, Bool.not_or, Bool.decide_eq_false]

end Unmet

namespace AliasList

theorem pushAll_nil (aliases : AliasList) : aliases.pushAll [] = aliases := by
  rw [pushAll, unmet, List.append_nil]

theorem pushAll_append (aliases : AliasList) (params others : List Alias) :
    aliases.pushAll (params ++ others) = (aliases.pushAll params).pushAll others := by
  simp only [pushAll, ids, unmet_append, List.append_assoc, List.map_append]
  congr 3
  apply unmet_congr
  intro id
  rw [List.mem_append, List.mem_append]
  exact or_comm

theorem pushAll_again (aliases : AliasList) (params : List Alias) :
    (aliases.pushAll params).pushAll params = aliases.pushAll params := by
  have nothing : unmet (aliases.pushAll params).ids params = [] := by
    apply unmet_eq_nil
    intro param member
    have known : param.id ∈ (unmet aliases.ids params).map AliasOf.id ++ aliases.ids :=
      id_known aliases.ids member
    rw [ids, pushAll, List.map_append]
    exact List.mem_append.mpr (List.mem_append.mp known).symm
  rw [pushAll, nothing, List.append_nil]

end AliasList

namespace Traced

variable {α β : Type}

def collecting (x : Traced α) : Collecting α :=
  ExceptT.mk fun aliases => (x.outcome, aliases.pushAll x.met)

theorem runOn_collecting (x : Traced α) (aliases : AliasList) :
    x.collecting.runOn aliases = (x.outcome, aliases.pushAll x.met) := rfl

theorem collecting_ofExcept (outcome : Except Error α) :
    (ofExcept outcome).collecting = MonadExcept.ofExcept outcome := by
  funext aliases
  cases outcome with
  | error e => exact congrArg (Prod.mk _) aliases.pushAll_nil
  | ok a => exact congrArg (Prod.mk _) aliases.pushAll_nil

theorem collecting_pure (a : α) : (pure a : Traced α).collecting = pure a :=
  collecting_ofExcept (.ok a)

theorem collecting_fail (e : Error) : (fail e : Traced α).collecting = throw e :=
  collecting_ofExcept (.error e)

theorem collecting_meet (param : Alias) : (meet param).collecting = Collecting.note param := rfl

theorem collecting_bind (x : Traced α) (f : α → Traced β) :
    (x >>= f).collecting = x.collecting >>= fun a => (f a).collecting := by
  obtain ⟨met, outcome⟩ := x
  funext aliases
  cases outcome with
  | error e => rfl
  | ok a => exact congrArg (Prod.mk _) (aliases.pushAll_append met (f a).met)

theorem collecting_mapM (f : α → Traced β) (items : List α) :
    (items.mapM f).collecting = items.mapM fun a => (f a).collecting := by
  induction items with
  | nil => exact collecting_pure []
  | cons head rest ih => simp only [List.mapM_cons, collecting_bind, collecting_pure, ih]

theorem collecting_mapM_attach {items : List α} {f : α → Traced β}
    {g : { a // a ∈ items } → Collecting β} (each : ∀ a, g a = (f a.1).collecting) :
    items.attach.mapM g = (items.mapM f).collecting := by
  rw [collecting_mapM, List.mapM_subtype (g := fun a => (f a).collecting) fun a present =>
    each ⟨a, present⟩, List.unattach_attach]

end Traced

namespace Renderer

open Traced

variable {renderer : Renderer}

/-- Collecting an expression gives what rendering gives and keeps what rendering notes. -/
def Follows (renderer : Renderer) (e : Expr) : Prop :=
  ∀ scope, renderer.collect e scope = (renderer.evaluate e scope).collecting

theorem follows_property {parent : Option Expr} {name : String} {result : Result}
    (smaller : ∀ e, Expr.Precedes e (.property parent name result) → Follows renderer e) :
    Follows renderer (.property parent name result) := by
  intro scope
  cases result with
  | undecided overloads => rw [collect.eq_def, evaluate_undecided, collecting_fail]
  | type type =>
    cases parent with
    | none =>
      have bare : renderer.evaluate (.property none name (.type type)) scope =
          pure (.ofText name) := evaluate_bare_member renderer name type scope
      rw [collect.eq_def, bare, collecting_pure]
    | some parent =>
      have behind := evaluate_member renderer parent name type scope
      rw [Expr.member] at behind
      rw [behind, collecting_bind, collect.eq_def]
      dsimp only
      rw [smaller parent .parent scope.nested]
      congr 1
      funext path
      exact (collecting_pure _).symm

theorem collected_operands {c c' : Call} (scope : Scope)
    (smaller : ∀ e, Expr.Precedes e (.call c) → Follows renderer e)
    (reduced : c.reduce renderer.schema = .ok (.call c')) :
    (c'.args.attach.mapM fun argument => do
      if argument.1.2.directiveKind?.isSome || isDirective argument.1.1 then
        throw (.unresolvedDirective argument.1.2.name c'.signature.text)
      else
        let rendering ← renderer.collect argument.1.1 scope.atTop
        pure (rendering.root,
          operandText c'.signature.layout argument.1.1 rendering.textOrEmpty)) =
      (c'.args.mapM (renderer.operand c' scope)).collecting := by
  apply collecting_mapM_attach
  intro argument
  have precedes := CallOf.precedes_of_arg reduced argument.2
  rw [operand, smaller _ precedes scope.atTop]
  split
  · rw [collecting_fail]
  · simp only [collecting_bind, collecting_pure]

theorem follows_call {c : Call}
    (smaller : ∀ e, Expr.Precedes e (.call c) → Follows renderer e) :
    Follows renderer (.call c) := by
  intro scope
  rw [collect.eq_def]
  dsimp only
  split
  case h_1 failed => rw [evaluate_irreducible failed, collecting_fail]
  case h_2 paths write reduced =>
    have texts : (paths.attach.mapM fun path => do
        let rendering ← renderer.collect path.1.2 .it
        pure (path.1.1, rendering.textOrEmpty)) = (paths.mapM renderer.pathText).collecting := by
      apply collecting_mapM_attach
      intro path
      have precedes := CallOf.precedes_of_path reduced path.2
      rw [pathText, smaller _ precedes]
      simp only [collecting_bind, collecting_pure]
    rw [evaluate_rawText reduced, texts]
    simp only [collecting_bind, collecting_ofExcept, collecting_pure]
  case h_3 c' reduced =>
    rw [evaluate_call reduced, collected_operands scope smaller reduced]
    simp only [collecting_bind, collecting_ofExcept, collecting_pure]
    congr 1
    funext _
    rw [receiverRendering]
    split
    · rename_i receiver present
      have precedes := CallOf.precedes_of_receiver reduced present
      simp only [present, smaller _ precedes scope.nested]
    · rename_i absent
      simp only [absent, collecting_pure]

theorem follows_assembled {parts : List Part} {result : Result}
    (smaller : ∀ e, Expr.Precedes e (.assembled parts result) → Follows renderer e) :
    Follows renderer (.assembled parts result) := by
  intro scope
  have renderings : (parts.attach.mapM fun part =>
      match _held : part.1 with
      | .text text => pure (.ofText text)
      | .expr e => renderer.collect e scope) =
        (parts.mapM (renderer.partRendering scope)).collecting := by
    apply collecting_mapM_attach
    intro part
    obtain ⟨part, held⟩ := part
    cases part with
    | text text => exact (collecting_pure _).symm
    | expr e => exact smaller e (.assembled held) scope
  rw [evaluate_assembled, collect, collecting_bind, ← renderings]
  simp only [collecting_pure]
  rfl

theorem collect_eq (e : Expr) : Follows renderer e := by
  -- A call is rendered as what it reduces to, which no structural induction reaches.
  induction e using Expr.precedes_wellFounded.induction with
  | _ e smaller =>
    cases e with
    | root symbol =>
      intro scope
      rw [collect, evaluate_root, collecting_pure]
    | property parent name result => exact follows_property smaller
    | call c => exact follows_call smaller
    | value v type =>
      intro scope
      rw [collect, evaluate_value]
      simp only [collecting_bind, collecting_ofExcept, collecting_pure]
    | aliased param type =>
      intro scope
      rw [collect, evaluate_aliased]
      simp only [collecting_bind, collecting_meet, collecting_pure]
    | directive d =>
      intro scope
      rw [collect, evaluate_directive, collecting_fail]
    | inContext inner context =>
      intro scope
      rw [collect, evaluate_inContext]
      exact smaller inner .inContext _
    | named inner symbol =>
      intro scope
      rw [collect, evaluate_named, smaller inner .named]
      simp only [collecting_bind, collecting_pure]
    | assembled parts result => exact follows_assembled smaller

theorem runOn_collect (e : Expr) (scope : Scope) (aliases : AliasList) :
    (renderer.collect e scope).runOn aliases =
      ((renderer.evaluate e scope).outcome, aliases.pushAll (renderer.evaluate e scope).met) := by
  rw [collect_eq, runOn_collecting]

/-- Two renderings of an expression onto different lists fail alike or give the same text. Each
list is continued by those of the aliases met that were not on it, and a second rendering onto it
gives the same and adds nothing. -/
theorem collect_independent (renderer : Renderer) (e : Expr) (scope : Scope) :
    (∀ aliases others : AliasList,
      ((renderer.collect e scope).runOn aliases).1 =
        ((renderer.collect e scope).runOn others).1) ∧
    ∀ aliases : AliasList,
      ((renderer.collect e scope).runOn aliases).1 = (renderer.evaluate e scope).outcome ∧
      ((renderer.collect e scope).runOn aliases).2.params = aliases.params ++
        firstOccurrences ((renderer.evaluate e scope).met.filter fun param =>
          !aliases.ids.contains param.id) ∧
      (renderer.collect e scope).runOn ((renderer.collect e scope).runOn aliases).2 =
        (renderer.collect e scope).runOn aliases := by
  refine ⟨fun aliases others => ?_, fun aliases => ⟨?_, ?_, ?_⟩⟩
  · rw [runOn_collect, runOn_collect]
  · rw [runOn_collect]
  · rw [runOn_collect, AliasList.pushAll, unmet_eq]
  · rw [runOn_collect, runOn_collect, AliasList.pushAll_again]

end Renderer

namespace Draft

theorem addClause_collects (mapping : Mapping) (draft : Draft) (clause : Clause) :
    draft.addClause mapping clause = (do
      let key ← clause.key
      let (outcome, aliases) :=
        (mapping.renderer.collect clause.expr .it).runOn draft.aliases
      let rendering ← outcome
      { draft with aliases := aliases }.addPair key (clauseText key rendering.textOrEmpty)) := by
  rw [addClause, Renderer.runOn_collect]
  congr 1
  funext key
  dsimp only
  rw [Renderer.met_render, Renderer.render]
  cases rendered : (mapping.renderer.evaluate clause.expr .it).outcome with
  | error e => simp only [Bind.bind, Traced.bind, rendered, Except.bind]
  | ok rendering => simp only [Bind.bind, Traced.bind, rendered, Except.bind, pure]

end Draft
end ODataRequest
