import ODataRequest.Rendering
namespace ODataRequest.Renderer

theorem evaluate_root (renderer : Renderer) (symbol : RootSymbol) (scope : Scope) :
    renderer.evaluate (.root symbol) scope = pure (anchor symbol scope) := by
  rw [evaluate]

theorem evaluate_member (renderer : Renderer) (parent : Expr) (name : String) (type : TypeRef)
    (scope : Scope) :
    renderer.evaluate (.member (some parent) name type) scope = (do
      let path ← renderer.evaluate parent scope.nested
      pure ⟨path.root, some (match path.text with
        | some path => path ++ "/" ++ name
        | none => name)⟩) :=
  evaluate.eq_def renderer _ scope

theorem evaluate_bare_member (renderer : Renderer) (name : String) (type : TypeRef)
    (scope : Scope) :
    renderer.evaluate (.member none name type) scope = pure (.ofText name) := by
  rw [Expr.member, evaluate.eq_def]

theorem evaluate_undecided (renderer : Renderer) (parent : Option Expr) (name : String)
    (overloads : Overloads) (scope : Scope) :
    renderer.evaluate (.property parent name (.undecided overloads)) scope =
      .fail (.ambiguousResult name) := by
  rw [evaluate.eq_def]

theorem evaluate_value (renderer : Renderer) (v : Value) (type : Option TypeRef) (scope : Scope) :
    renderer.evaluate (.value v type) scope = (do
      let text ← .ofExcept (renderer.serializer renderer.schema v (type.getD v.defaultType))
      pure (.ofText text)) := by
  rw [evaluate]

theorem evaluate_aliased (renderer : Renderer) (param : Alias) (type : Option TypeRef)
    (scope : Scope) :
    renderer.evaluate (.aliased param type) scope = (do
      .meet param
      pure (.ofText param.name)) := by
  rw [evaluate]

theorem evaluate_directive (renderer : Renderer) (d : Directive) (scope : Scope) :
    renderer.evaluate (.directive d) scope =
      .fail (.unresolvedDirective d.kind.text "<constant>") := by
  rw [evaluate]

theorem evaluate_inContext (renderer : Renderer) (inner : Expr) (context : String)
    (scope : Scope) :
    renderer.evaluate (.inContext inner context) scope =
      renderer.evaluate inner (scope.inContext context) := by
  rw [evaluate]

theorem evaluate_named (renderer : Renderer) (inner : Expr) (symbol : RootSymbol)
    (scope : Scope) :
    renderer.evaluate (.named inner symbol) scope = (do
      let rendering ← renderer.evaluate inner scope
      pure ⟨some symbol, namedText symbol rendering.text⟩) := by
  rw [evaluate]

def partRendering (renderer : Renderer) (scope : Scope) : Part → Traced Rendering
  | .text text => pure (.ofText text)
  | .expr e => renderer.evaluate e scope

theorem evaluate_assembled (renderer : Renderer) (parts : List Part) (result : Result)
    (scope : Scope) :
    renderer.evaluate (.assembled parts result) scope = (do
      let renderings ← parts.mapM (renderer.partRendering scope)
      pure ⟨firstRoot (renderings.map Rendering.root),
        some (String.join (renderings.map Rendering.textOrEmpty))⟩) := by
  rw [evaluate]
  congr 1
  rw [List.mapM_subtype (g := renderer.partRendering scope) ?_, List.unattach_attach]
  intro part present
  cases part <;> rfl

def pathText (renderer : Renderer) (path : String × Expr) : Traced (String × String) := do
  let rendering ← renderer.evaluate path.2 .it
  pure (path.1, rendering.textOrEmpty)

def operand (renderer : Renderer) (c : Call) (scope : Scope) (argument : Expr × Parameter) :
    Traced (Option RootSymbol × String) :=
  if argument.2.directiveKind?.isSome || isDirective argument.1 then
    .fail (.unresolvedDirective argument.2.name c.signature.text)
  else do
    let rendering ← renderer.evaluate argument.1 scope.atTop
    pure (rendering.root, operandText c.signature.layout argument.1 rendering.textOrEmpty)

def receiverRendering (renderer : Renderer) (c : Call) (scope : Scope) : Traced Rendering :=
  match c.receiver with
  | some receiver => renderer.evaluate receiver scope.nested
  | none => pure .empty

/-- The rendering of what a call is once its directives are worked in. -/
def reducedRendering (renderer : Renderer) (scope : Scope) : Reduced → Traced Rendering
  | .rawText paths write => do
    let texts ← paths.mapM renderer.pathText
    let text ← .ofExcept (renderer.serializer renderer.schema (.raw (write texts)) .raw)
    pure (.ofText text)
  | .call c => do
    .ofExcept (checkCall c)
    let receiver ← renderer.receiverRendering c scope
    let operands ← c.args.mapM (renderer.operand c scope)
    pure ⟨firstRoot (receiver.root :: operands.map Prod.fst),
      some (callText c.signature.layout receiver.text (operands.map Prod.snd))⟩

theorem evaluate_reduced (renderer : Renderer) (c : Call) (scope : Scope) :
    renderer.evaluate (.call c) scope = (do
      let reduced ← .ofExcept (c.reduce renderer.schema)
      renderer.reducedRendering scope reduced) := by
  rw [evaluate]
  split
  case h_1 failed =>
    rw [failed]
    rfl
  case h_2 paths write reduced =>
    have texts : (paths.attach.mapM fun path => do
        let rendering ← renderer.evaluate path.1.2 .it
        pure (path.1.1, rendering.textOrEmpty)) = paths.mapM renderer.pathText := by
      rw [List.mapM_subtype (g := renderer.pathText) fun _ _ => rfl, List.unattach_attach]
    rw [reduced, texts]
    rfl
  case h_3 c' reduced =>
    have operands : (c'.args.attach.mapM fun argument => do
        if argument.1.2.directiveKind?.isSome || isDirective argument.1.1 then
          .fail (.unresolvedDirective argument.1.2.name c'.signature.text)
        else
          let rendering ← evaluate renderer argument.1.1 scope.atTop
          pure (rendering.root,
            operandText c'.signature.layout argument.1.1 rendering.textOrEmpty)) =
          c'.args.mapM (renderer.operand c' scope) := by
      rw [List.mapM_subtype (g := renderer.operand c' scope) fun _ _ => rfl, List.unattach_attach]
    rw [reduced, Traced.ofExcept_ok, pure_bind, reducedRendering]
    simp only [operands]
    congr 1
    funext _
    unfold receiverRendering
    split
    · rename_i receiver present
      simp [present]
    · rename_i absent
      simp [absent]

theorem evaluate_irreducible {renderer : Renderer} {c : Call} {e : Error}
    (failed : c.reduce renderer.schema = .error e) (scope : Scope) :
    renderer.evaluate (.call c) scope = .fail e := by
  rw [evaluate_reduced, failed]
  rfl

theorem evaluate_rawText {renderer : Renderer} {c : Call} {paths : List (String × Expr)}
    {write : List (String × String) → String}
    (reduced : c.reduce renderer.schema = .ok (.rawText paths write)) (scope : Scope) :
    renderer.evaluate (.call c) scope = (do
      let texts ← paths.mapM renderer.pathText
      let text ← .ofExcept (renderer.serializer renderer.schema (.raw (write texts)) .raw)
      pure (.ofText text)) := by
  rw [evaluate_reduced, reduced, Traced.ofExcept_ok, pure_bind, reducedRendering]

theorem evaluate_call {renderer : Renderer} {c c' : Call}
    (reduced : c.reduce renderer.schema = .ok (.call c')) (scope : Scope) :
    renderer.evaluate (.call c) scope = (do
      .ofExcept (checkCall c')
      let receiver ← renderer.receiverRendering c' scope
      let operands ← c'.args.mapM (renderer.operand c' scope)
      pure ⟨firstRoot (receiver.root :: operands.map Prod.fst),
        some (callText c'.signature.layout receiver.text (operands.map Prod.snd))⟩) := by
  rw [evaluate_reduced, reduced, Traced.ofExcept_ok, pure_bind, reducedRendering]

end ODataRequest.Renderer
