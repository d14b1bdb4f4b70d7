import ODataRequest.Traced
import ODataRequest.Expr.ReductionOrder
import ODataRequest.Literal

/-!
The text of an expression. Context is handed down in a `Scope`; the aliases met on the way come
back with the result, so the text never depends on what was rendered before.
-/

namespace ODataRequest

/-- Where an expression is rendered. At the top of a clause or an argument a bare anchor is
written out; elsewhere only if it is not the current context. -/
structure Scope where
  context : String
  top : Bool
  deriving DecidableEq

namespace Scope

def ofContext (context : String) : Scope := ⟨context, true⟩

def it : Scope := ofContext itContext

def nested (scope : Scope) : Scope := { scope with top := false }

def atTop (scope : Scope) : Scope := { scope with top := true }

def inContext (scope : Scope) (context : String) : Scope := { scope with context := context }

end Scope

structure Rendering where
  root : Option RootSymbol
  text : Option String

namespace Rendering

def empty : Rendering := ⟨none, none⟩

def ofText (text : String) : Rendering := ⟨none, some text⟩

def textOrEmpty (r : Rendering) : String := r.text.getD ""

end Rendering

structure Renderer where
  schema : Schema
  serializer : Serializer

namespace Renderer

def standard (schema : Schema) : Renderer := ⟨schema, Literal.serialize⟩

def anchor (symbol : RootSymbol) (scope : Scope) : Rendering :=
  let written := scope.top || symbol.context.any fun context => context != scope.context
  ⟨some symbol, if written then symbol.context else none⟩

/-- An operator puts parentheses around operands that are infix operators themselves, also
under a context. -/
def needsParentheses (layout : Layout) (operand : Expr) : Bool :=
  let inner := match operand with
    | .inContext e _ => e
    | e => e
  match layout, inner with
  | .between _, .call c | .before _, .call c | .after _, .call c =>
    match c.signature.layout with
    | .between _ => true
    | _ => false
  | _, _ => false

def operandText (layout : Layout) (operand : Expr) (text : String) : String :=
  if needsParentheses layout operand then "(" ++ text ++ ")" else text

def callText (layout : Layout) (receiver : Option String) (operands : List String) : String :=
  match layout with
  | .between operator => Text.joined (" " ++ operator ++ " ") operands
  | .function name =>
    let text := name ++ "(" ++ Text.joined "," operands ++ ")"
    match receiver with
    | some path => path ++ "/" ++ text
    | none => text
  | .before operator => operator ++ Text.joined "," operands
  | .after operator => Text.joined "," operands ++ operator
  | .joined separator => Text.joined separator operands
  | .plain => Text.joined "," operands

def isDirective : Expr → Bool
  | .directive _ => true
  | _ => false

def checkCall (c : Call) : Except Error Unit := do
  c.signature.validate
  match c.signature.result with
  | .undecided _ => .error (.ambiguousResult c.signature.name)
  | .type _ => .ok ()

def namedText (symbol : RootSymbol) (text : Option String) : Option String :=
  match text, symbol.context with
  | some text, some name => some (name ++ "=" ++ text)
  | text, _ => text

def firstRoot (roots : List (Option RootSymbol)) : Option RootSymbol := roots.findSome? id

def evaluate (renderer : Renderer) (e : Expr) (scope : Scope) : Traced Rendering :=
  match e with
  | .root symbol => pure (anchor symbol scope)
  | .property parent name result =>
    match result with
    | .undecided _ => .fail (.ambiguousResult name)
    | .type _ =>
      match parent with
      | none => pure (.ofText name)
      | some parent => do
        let path ← evaluate renderer parent scope.nested
        let text := match path.text with
          | some path => path ++ "/" ++ name
          | none => name
        pure ⟨path.root, some text⟩
  | .call c =>
    match _reduced : c.reduce renderer.schema with
    | .error e => .fail e
    | .ok (.rawText paths write) => do
      let texts ← paths.attach.mapM fun path => do
        let rendering ← evaluate renderer path.1.2 .it
        pure (path.1.1, rendering.textOrEmpty)
      let text ← .ofExcept (renderer.serializer renderer.schema (.raw (write texts)) .raw)
      pure (.ofText text)
    | .ok (.call c') => do
      .ofExcept (checkCall c')
      let receiver ← match _present : c'.receiver with
        | some receiver => evaluate renderer receiver scope.nested
        | none => pure .empty
      let operands ← c'.args.attach.mapM fun argument => do
        if argument.1.2.directiveKind?.isSome || isDirective argument.1.1 then
          .fail (.unresolvedDirective argument.1.2.name c'.signature.text)
        else
          let rendering ← evaluate renderer argument.1.1 scope.atTop
          pure (rendering.root,
            operandText c'.signature.layout argument.1.1 rendering.textOrEmpty)
      pure ⟨firstRoot (receiver.root :: operands.map Prod.fst),
        some (callText c'.signature.layout receiver.text (operands.map Prod.snd))⟩
  | .value v type => do
    let text ← .ofExcept (renderer.serializer renderer.schema v (type.getD v.defaultType))
    pure (.ofText text)
  | .aliased param _ => do
    .meet param
    pure (.ofText param.name)
  | .directive d => .fail (.unresolvedDirective d.kind.text "<constant>")
  | .inContext inner context => evaluate renderer inner (scope.inContext context)
  | .named inner symbol => do
    let rendering ← evaluate renderer inner scope
    pure ⟨some symbol, namedText symbol rendering.text⟩
  | .assembled parts _ => do
    let renderings ← parts.attach.mapM fun part =>
      match _held : part.1 with
      | .text text => pure (.ofText text)
      | .expr e => evaluate renderer e scope
    pure ⟨firstRoot (renderings.map Rendering.root),
      some (String.join (renderings.map Rendering.textOrEmpty))⟩
termination_by e
decreasing_by
  · exact .single .parent
  · exact .single (CallOf.precedes_of_path _reduced path.2)
  · exact .single (CallOf.precedes_of_arg _reduced argument.2)
  · exact .single (CallOf.precedes_of_receiver _reduced _present)
  · exact .single .inContext
  · exact .single .named
  · exact .single (.assembled (_held ▸ part.2))

def render (renderer : Renderer) (e : Expr) : Traced String := do
  let rendering ← renderer.evaluate e .it
  pure rendering.textOrEmpty

def rewritten (renderer : Renderer) (c : Call) : Traced Expr :=
  match c.reduce renderer.schema with
  | .error e => .fail e
  | .ok (.call c') => pure (.call c')
  | .ok (.rawText paths write) => do
    let texts ← paths.mapM fun path => do
      let rendering ← renderer.evaluate path.2 .it
      pure (path.1, rendering.textOrEmpty)
    pure (.raw (write texts))

end Renderer

/-- Aliases in the order in which they were met, each identity once. -/
structure AliasList where
  params : List Alias

def unmet (met : List AliasId) : List Alias → List Alias
  | [] => []
  | param :: rest =>
    if met.contains param.id then unmet met rest else param :: unmet (param.id :: met) rest

namespace AliasList

def empty : AliasList := ⟨[]⟩

def ids (aliases : AliasList) : List AliasId := aliases.params.map AliasOf.id

def pushAll (aliases : AliasList) (params : List Alias) : AliasList :=
  ⟨aliases.params ++ unmet aliases.ids params⟩

def push (aliases : AliasList) (param : Alias) : AliasList := aliases.pushAll [param]

end AliasList
end ODataRequest
