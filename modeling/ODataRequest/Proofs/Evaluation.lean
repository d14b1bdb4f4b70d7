import ODataRequest.Rendering.Nodes
import ODataRequest.Proofs.Outcomes
namespace ODataRequest

theorem CallOf.reduce_round (schema : Schema) (c : Call) :
    c.reduce schema = (do
      match ← c.round schema with
      | .finished => pure (.call c)
      | .rawText paths write => pure (.rawText paths write)
      | .next c' => c'.reduce schema) := by
  rw [reduce]
  split
  all_goals
    rename_i step
    rw [step]
    rfl

theorem CallOf.reduce_of_plain {schema : Schema} {c : Call}
    (plain : ∀ argument ∈ c.args, argument.2.directiveKind? = none) :
    c.reduce schema = .ok (.call c) := by
  have nothing : splitDirective c.args = none := by
    rcases c with ⟨receiver, args, signature, bindings⟩
    induction args with
    | nil => rfl
    | cons head rest ih =>
      have head_plain : head.2.directiveKind? = none := plain head List.mem_cons_self
      have rest_plain : splitDirective rest = none :=
        ih fun argument member => plain argument (List.mem_cons_of_mem _ member)
      simp only [splitDirective, head_plain, rest_plain]
      rfl
  have finished : c.round schema = .ok .finished := by
    rw [round, nothing]
    rfl
  rw [reduce_round, finished]
  rfl

theorem Clause.call_eq_ok {clause : Clause} {c : Call} :
    clause.call = .ok c ↔ clause.expr.topCall? = some c := by
  rw [call]
  cases clause.expr.topCall? with
  | none => simp
  | some c => simp

namespace Renderer

theorem render_ofAlias (renderer : Renderer) (param : Alias) :
    renderer.render (.ofAlias param) = ⟨[param], .ok param.name⟩ := by
  rw [render, Expr.ofAlias, evaluate_aliased]
  rfl

theorem render_raw (schema : Schema) (text : String) :
    (standard schema).render (.raw text) = pure text := by
  rw [render, Expr.raw, Expr.typedConstant, evaluate_value]
  rfl

theorem render_operand {renderer : Renderer} {c c' : Call} {e : Expr} {p : Parameter}
    {receiver : Rendering} (reduced : c.reduce renderer.schema = .ok (.call c'))
    (args : c'.args = [(e, p)]) (plain : p.directiveKind? = none) (other : isDirective e = false)
    (layout : c'.signature.layout = .plain) (checked : checkCall c' = .ok ())
    (received : renderer.receiverRendering c' .it = pure receiver) :
    renderer.render (.call c) = renderer.render e := by
  have written : renderer.operand c' .it (e, p) = (do
      let rendering ← renderer.evaluate e .it
      pure (rendering.root, rendering.textOrEmpty)) := by
    rw [operand, plain, other, layout]
    rfl
  rw [render, render, evaluate_call reduced, checked, received, args, List.mapM_cons,
    List.mapM_nil, written, layout]
  simp only [Traced.ofExcept_ok, pure_bind, bind_assoc]
  rfl

end Renderer
end ODataRequest
