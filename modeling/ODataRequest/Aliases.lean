import ODataRequest.Rendering.Nodes

/-!
Giving every alias met while rendering its text. Rendering what an alias refers to can meet
further aliases; `reference_precedes` says that these are smaller, so the list of aliases still
to be written runs out.
-/

namespace ODataRequest

namespace Renderer

open Traced ODataRequest.Expr

section Met

variable {renderer : Renderer} {scope : Scope} {param : Alias}

theorem mem_met_receiverRendering {c : Call} :
    param ∈ (renderer.receiverRendering c scope).met ↔
      ∃ e, c.receiver = some e ∧ param ∈ (renderer.evaluate e scope.nested).met := by
  unfold receiverRendering
  cases c.receiver with
  | none => simp [pure]
  | some e => simp

theorem partRendering_met {part : Part} :
    param ∈ (renderer.partRendering scope part).met ↔
      ∃ e, part = .expr e ∧ param ∈ (renderer.evaluate e scope).met := by
  cases part with
  | text text => simp [partRendering, pure]
  | expr e => simp [partRendering]

theorem met_operand {c : Call} {argument : Expr × Parameter}
    (member : param ∈ (renderer.operand c scope argument).met) :
    param ∈ (renderer.evaluate argument.1 scope.atTop).met := by
  unfold operand at member
  split at member
  · exact absurd member not_mem_met_fail
  · rwa [met_bind_pure] at member

theorem met_call {c c' : Call} (reduced : c.reduce renderer.schema = .ok (.call c'))
    (member : param ∈ (renderer.evaluate (.call c) scope).met) :
    (∃ e, c'.receiver = some e ∧ param ∈ (renderer.evaluate e scope.nested).met) ∨
      ∃ argument ∈ c'.args, param ∈ (renderer.evaluate argument.1 scope.atTop).met := by
  rw [evaluate_call reduced] at member
  rcases mem_met_bind_iff.mp member with member | ⟨_, _, member⟩
  · exact absurd member not_mem_met_ofExcept
  · rcases mem_met_bind_iff.mp member with member | ⟨_, _, member⟩
    · exact .inl (mem_met_receiverRendering.mp member)
    · rw [met_bind_pure] at member
      obtain ⟨argument, present, member⟩ := mem_met_mapM member
      exact .inr ⟨argument, present, met_operand member⟩

theorem met_rawText {c : Call} {paths : List (String × Expr)}
    {write : List (String × String) → String}
    (reduced : c.reduce renderer.schema = .ok (.rawText paths write))
    (member : param ∈ (renderer.evaluate (.call c) scope).met) :
    ∃ path ∈ paths, param ∈ (renderer.evaluate path.2 .it).met := by
  rw [evaluate_rawText reduced] at member
  rcases mem_met_bind_iff.mp member with member | ⟨_, _, member⟩
  · obtain ⟨path, present, member⟩ := mem_met_mapM member
    rw [pathText, met_bind_pure] at member
    exact ⟨path, present, member⟩
  · rw [met_bind_pure] at member
    exact absurd member not_mem_met_ofExcept

theorem met_assembled {parts : List Part} {result : Result}
    (member : param ∈ (renderer.evaluate (.assembled parts result) scope).met) :
    ∃ e, PartOf.expr e ∈ parts ∧ param ∈ (renderer.evaluate e scope).met := by
  rw [evaluate_assembled, met_bind_pure] at member
  obtain ⟨part, present, member⟩ := mem_met_mapM member
  obtain ⟨e, rfl, member⟩ := partRendering_met.mp member
  exact ⟨e, present, member⟩

theorem met_inside {e : Expr} (member : param ∈ (renderer.evaluate e scope).met) :
    (∃ type, e = .aliased param type) ∨
      ∃ inner place, Precedes inner e ∧ param ∈ (renderer.evaluate inner place).met := by
  cases e with
  | root symbol =>
    rw [evaluate_root] at member
    exact absurd member not_mem_met_pure
  | property parent name result =>
    cases result with
    | undecided overloads =>
      rw [evaluate_undecided] at member
      exact absurd member not_mem_met_fail
    | type type =>
      cases parent with
      | none => exact absurd (evaluate_bare_member .. ▸ member) not_mem_met_pure
      | some parent =>
        have met := evaluate_member renderer parent name type scope ▸ member
        exact .inr ⟨parent, _, .parent, met_bind_pure .. ▸ met⟩
  | call c =>
    cases reduced : c.reduce renderer.schema with
    | error e =>
      rw [evaluate_irreducible reduced] at member
      exact absurd member not_mem_met_fail
    | ok reduced' =>
      -- What is rendered is what the call reduces to, not its own arguments.
      cases reduced' with
      | rawText paths write =>
        obtain ⟨path, present, member⟩ := met_rawText reduced member
        exact .inr ⟨path.2, _, CallOf.precedes_of_path reduced present, member⟩
      | call c' =>
        rcases met_call reduced member with ⟨e, present, member⟩ | ⟨argument, present, member⟩
        · exact .inr ⟨e, _, CallOf.precedes_of_receiver reduced present, member⟩
        · exact .inr ⟨argument.1, _, CallOf.precedes_of_arg reduced present, member⟩
  | value v type =>
    rw [evaluate_value, met_bind_pure] at member
    exact absurd member not_mem_met_ofExcept
  | aliased other type =>
    rw [evaluate_aliased, met_bind_pure] at member
    exact .inl ⟨type, by rw [List.mem_singleton.mp member]⟩
  | directive d =>
    rw [evaluate_directive] at member
    exact absurd member not_mem_met_fail
  | inContext inner context =>
    rw [evaluate_inContext] at member
    exact .inr ⟨inner, _, .inContext, member⟩
  | named inner symbol =>
    rw [evaluate_named, met_bind_pure] at member
    exact .inr ⟨inner, _, .named, member⟩
  | assembled parts result =>
    obtain ⟨e, present, member⟩ := met_assembled member
    exact .inr ⟨e, _, .assembled present, member⟩

end Met

theorem reference_precedes {renderer : Renderer} {e : Expr} {scope : Scope} {param : Alias}
    (member : param ∈ (renderer.evaluate e scope).met) {target : Expr}
    (refers : param.payload = .reference target) : Below target e := by
  induction e using Expr.precedes_wellFounded.induction generalizing scope with
  | _ e ih =>
    rcases met_inside member with ⟨type, rfl⟩ | ⟨inner, place, precedes, member⟩
    · exact .single (.aliased refers)
    · exact .tail (ih inner precedes member) precedes

def aliasText (renderer : Renderer) (param : Alias) : Traced String :=
  match param.payload with
  | .constant v type => .ofExcept (renderer.serializer renderer.schema v type)
  | .text text => pure text
  | .reference e => renderer.render e

/-- How many aliases an expression leads to, met directly or through other aliases,
counted once for every way. -/
def weight (renderer : Renderer) (e : Expr) : Nat :=
  (renderer.evaluate e .it).met.attach.foldr (fun param total =>
    (match _refers : param.1.payload with
      | .reference target => weight renderer target + 1
      | _ => 1) + total) 0
termination_by e
decreasing_by exact reference_precedes param.2 _refers

def aliasWeight (renderer : Renderer) (param : Alias) : Nat :=
  match param.payload with
  | .reference e => renderer.weight e + 1
  | _ => 1

def totalWeight (renderer : Renderer) (params : List Alias) : Nat :=
  params.foldr (fun param total => renderer.aliasWeight param + total) 0

theorem totalWeight_cons (renderer : Renderer) (param : Alias) (params : List Alias) :
    renderer.totalWeight (param :: params) =
      renderer.aliasWeight param + renderer.totalWeight params := rfl

theorem totalWeight_append (renderer : Renderer) (params others : List Alias) :
    renderer.totalWeight (params ++ others) =
      renderer.totalWeight params + renderer.totalWeight others := by
  induction params with
  | nil => simp [totalWeight]
  | cons param rest ih =>
    rw [List.cons_append, totalWeight_cons, totalWeight_cons, ih, Nat.add_assoc]

theorem weight_eq (renderer : Renderer) (e : Expr) :
    renderer.weight e = renderer.totalWeight (renderer.evaluate e .it).met := by
  rw [weight, totalWeight]
  conv => rhs; rw [← List.foldr_attach]
  congr 1
  funext param total
  simp only [aliasWeight]
  split <;> simp_all

theorem met_render (renderer : Renderer) (e : Expr) :
    (renderer.render e).met = (renderer.evaluate e .it).met := by
  simp only [render, Bind.bind, Traced.bind, pure]
  split <;> simp

theorem totalWeight_met_lt (renderer : Renderer) (param : Alias) :
    renderer.totalWeight (renderer.aliasText param).met < renderer.aliasWeight param := by
  unfold aliasText aliasWeight
  split
  · rename_i payload
    simp [totalWeight, Traced.ofExcept, payload]
  · rename_i payload
    simp [totalWeight, pure, payload]
  · rename_i payload
    simp only [payload, met_render, weight_eq]
    omega

theorem totalWeight_unmet_le (renderer : Renderer) (met : List AliasId) (params : List Alias) :
    renderer.totalWeight (unmet met params) ≤ renderer.totalWeight params := by
  induction params generalizing met with
  | nil => simp [unmet]
  | cons param rest ih =>
    unfold unmet
    split
    · have := ih met
      simp only [totalWeight_cons] at this ⊢
      omega
    · have := ih (param.id :: met)
      simp only [totalWeight_cons] at this ⊢
      omega

/-- Notes the text of an alias. Two aliases may share a name only if they share the text. -/
def addBinding (bindings : List (String × String)) (name text : String) :
    Except Error (List (String × String)) :=
  match lookupNamed name bindings with
  | none => .ok (bindings ++ [(name, text)])
  | some other =>
    if other = text then .ok bindings
    else .error (.repeatedClause name "Give each @param alias a distinct name.")

/-- Writes the pending aliases in turn; those met on the way join the end. -/
def bindPending (renderer : Renderer) (met : List AliasId) (pending : List Alias)
    (bindings : List (String × String)) : Except Error (List (String × String)) :=
  match pending with
  | [] => .ok bindings
  | param :: rest =>
    let text := renderer.aliasText param
    let fresh := unmet met text.met
    match text.outcome with
    | .error e => .error e
    | .ok text =>
      match addBinding bindings param.name text with
      | .error e => .error e
      | .ok bindings =>
        bindPending renderer (fresh.map AliasOf.id ++ met) (rest ++ fresh) bindings
termination_by renderer.totalWeight pending
decreasing_by
  have less := totalWeight_met_lt renderer param
  have kept := totalWeight_unmet_le renderer met (renderer.aliasText param).met
  simp only [totalWeight_append, totalWeight_cons]
  omega

def bindAliases (renderer : Renderer) (aliases : AliasList) :
    Except Error (List (String × String)) :=
  renderer.bindPending aliases.ids aliases.params []

end Renderer
end ODataRequest
