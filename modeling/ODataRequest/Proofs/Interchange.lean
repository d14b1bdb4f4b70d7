import ODataRequest.Proofs.Alike
import ODataRequest.Proofs.Evaluation
namespace ODataRequest

/-!
Parts of an expression that can stand for one another. What is rendered alike in its place and
looks alike to the directives around it can be put in its place.
-/

def Expr.isConstant : Expr → Bool
  | value _ _ | aliased _ _ | directive _ => true
  | _ => false

namespace Renderer

/-- Rendered alike in the context, and of the same type. -/
structure Agrees (renderer : Renderer) (context : String) (e e' : Expr) : Prop where
  evaluated : ∀ scope : Scope, scope.context = context →
    renderer.evaluate e' scope = renderer.evaluate e scope
  result : e'.result? = e.result?

structure PathAgrees (renderer : Renderer) (path path' : String × Expr) : Prop where
  name : path'.1 = path.1
  agrees : renderer.Agrees itContext path.2 path'.2

structure QueryAgrees (renderer : Renderer) (e e' : Expr) : Prop where
  agrees : renderer.Agrees itContext e e'
  key : (Clause.mk e').key = (Clause.mk e).key

inductive DirectiveAgrees (renderer : Renderer) : Directive → Directive → Prop
  | same (d : Directive) : DirectiveAgrees renderer d d
  | rawPaths {paths paths' : List (String × Expr)} :
      List.Forall₂ renderer.PathAgrees paths paths' →
      DirectiveAgrees renderer (.rawPaths paths) (.rawPaths paths')
  | subQueries {build build' : Schema → TypeRef → Except Error (List Expr)} :
      (∀ schema type,
        Alike (List.Forall₂ renderer.QueryAgrees) (build schema type) (build' schema type)) →
      DirectiveAgrees renderer (.subQueries build) (.subQueries build')

/-- Alike to the directives of a call, which look at constants. -/
inductive LooksLike (renderer : Renderer) : Expr → Expr → Prop
  | same (e : Expr) : LooksLike renderer e e
  | directive {d d' : Directive} :
      renderer.DirectiveAgrees d d' → LooksLike renderer (.directive d) (.directive d')
  | other {e e' : Expr} :
      e.isConstant = false → e'.isConstant = false → LooksLike renderer e e'

structure ArgumentAgrees (renderer : Renderer) (context : String)
    (argument argument' : CallOf.Argument) : Prop where
  parameter : argument'.2 = argument.2
  agrees : renderer.Agrees context argument.1 argument'.1
  looks : renderer.LooksLike argument.1 argument'.1
  parentheses : ∀ layout,
    needsParentheses layout argument'.1 = needsParentheses layout argument.1

structure CallAgrees (renderer : Renderer) (context : String) (c c' : Call) : Prop where
  signature : c'.signature = c.signature
  receiver : Option.Rel (renderer.Agrees context) c.receiver c'.receiver
  args : List.Forall₂ (renderer.ArgumentAgrees context) c.args c'.args

structure OptionAgrees (renderer : Renderer) (context : String) (entry entry' : String × Expr) :
    Prop where
  key : entry'.1 = entry.1
  agrees : renderer.Agrees context entry.2 entry'.2

inductive RoundAgrees (renderer : Renderer) (context : String) : Round → Round → Prop
  | finished : RoundAgrees renderer context .finished .finished
  | rawText {paths paths' : List (String × Expr)} {write : List (String × String) → String} :
      List.Forall₂ renderer.PathAgrees paths paths' →
      RoundAgrees renderer context (.rawText paths write) (.rawText paths' write)
  | next {c c' : Call} :
      renderer.CallAgrees context c c' → RoundAgrees renderer context (.next c) (.next c')

inductive ReducedAgrees (renderer : Renderer) (context : String) : Reduced → Reduced → Prop
  | call {c c' : Call} :
      renderer.CallAgrees context c c' → ReducedAgrees renderer context (.call c) (.call c')
  | rawText {paths paths' : List (String × Expr)} {write : List (String × String) → String} :
      List.Forall₂ renderer.PathAgrees paths paths' →
      ReducedAgrees renderer context (.rawText paths write) (.rawText paths' write)

variable {renderer : Renderer} {context : String} {e e' : Expr}

theorem mapM_congr {α β γ : Type} {f : α → Traced γ} {g : β → Traced γ} {items : List α}
    {items' : List β} (each : List.Forall₂ (fun a b => g b = f a) items items') :
    items'.mapM g = items.mapM f := by
  induction each with
  | nil => rfl
  | cons head _ ih => rw [List.mapM_cons, List.mapM_cons, head, ih]

namespace Agrees

theorem refl (e : Expr) : renderer.Agrees context e e := ⟨fun _ _ => rfl, rfl⟩

theorem concreteType (agrees : renderer.Agrees context e e') :
    e'.concreteType? = e.concreteType? := by
  rw [Expr.concreteType?, Expr.concreteType?, agrees.result]

theorem parent {name : String} {result : Result} (agrees : renderer.Agrees context e e') :
    renderer.Agrees context (.property (some e) name result) (.property (some e') name result) := by
  refine ⟨fun scope inside => ?_, rfl⟩
  cases result with
  | undecided overloads => rw [evaluate_undecided, evaluate_undecided]
  | type type =>
    change renderer.evaluate (.member (some e') name type) scope =
      renderer.evaluate (.member (some e) name type) scope
    rw [evaluate_member, evaluate_member, agrees.evaluated scope.nested inside]

theorem inContext {inner : String} (agrees : renderer.Agrees inner e e') :
    renderer.Agrees context (.inContext e inner) (.inContext e' inner) := by
  refine ⟨fun scope _ => ?_, agrees.result⟩
  rw [evaluate_inContext, evaluate_inContext, agrees.evaluated _ rfl]

theorem named {symbol : RootSymbol} (agrees : renderer.Agrees context e e') :
    renderer.Agrees context (.named e symbol) (.named e' symbol) := by
  refine ⟨fun scope inside => ?_, agrees.result⟩
  rw [evaluate_named, evaluate_named, agrees.evaluated scope inside]

inductive OfParts (renderer : Renderer) (context : String) : Part → Part → Prop
  | text (text : String) : OfParts renderer context (.text text) (.text text)
  | expr {e e' : Expr} :
      renderer.Agrees context e e' → OfParts renderer context (.expr e) (.expr e')

theorem assembled {parts parts' : List Part} {result : Result}
    (each : List.Forall₂ (OfParts renderer context) parts parts') :
    renderer.Agrees context (.assembled parts result) (.assembled parts' result) := by
  refine ⟨fun scope inside => ?_, rfl⟩
  have same : parts'.mapM (renderer.partRendering scope) =
      parts.mapM (renderer.partRendering scope) := by
    apply mapM_congr
    apply each.imp
    intro part part' agrees
    cases agrees with
    | text => rfl
    | expr agrees => exact agrees.evaluated scope inside
  rw [evaluate_assembled, evaluate_assembled, same]

end Agrees

theorem isDirective_of_open (plain : e.isConstant = false) : isDirective e = false := by
  cases e with
  | directive => cases plain
  | _ => rfl

namespace ArgumentAgrees

variable {argument argument' : CallOf.Argument}

theorem refl (argument : CallOf.Argument) : renderer.ArgumentAgrees context argument argument :=
  ⟨rfl, .refl _, .same _, fun _ => rfl⟩

theorem isDirective (agrees : renderer.ArgumentAgrees context argument argument') :
    Renderer.isDirective argument'.1 = Renderer.isDirective argument.1 := by
  rcases argument with ⟨e, p⟩
  rcases argument' with ⟨e', p'⟩
  cases agrees.looks with
  | same => rfl
  | directive => rfl
  | other plain plain' => rw [isDirective_of_open plain, isDirective_of_open plain']

theorem isOption (agrees : renderer.ArgumentAgrees context argument argument') :
    CallOf.isOption argument' = CallOf.isOption argument := by
  rw [CallOf.isOption, CallOf.isOption, agrees.parameter]

end ArgumentAgrees

section Reduction

open CallOf

variable {c c' : Call} {args args' : List Argument} {argument argument' : Argument}
  {schema : Schema}

theorem refl_args (args : List Argument) :
    List.Forall₂ (renderer.ArgumentAgrees context) args args :=
  List.forall₂_same.mpr fun argument _ => .refl argument

theorem splitDirective_agrees (agree : List.Forall₂ (renderer.ArgumentAgrees context) args args') :
    Option.Rel (fun split split' =>
      List.Forall₂ (renderer.ArgumentAgrees context) split.1 split'.1 ∧
      renderer.ArgumentAgrees context split.2.1 split'.2.1 ∧
      List.Forall₂ (renderer.ArgumentAgrees context) split.2.2 split'.2.2)
      (splitDirective args) (splitDirective args') := by
  induction agree with
  | nil => exact .none
  | @cons _ _ after after' head rest ih =>
    rw [splitDirective, splitDirective, head.parameter]
    split
    · exact .some ⟨.nil, head, rest⟩
    · generalize splitDirective after = found, splitDirective after' = found' at ih ⊢
      cases ih with
      | none => exact .none
      | some found => exact .some ⟨.cons head found.1, found.2⟩

theorem directiveOf_of_open {p : Parameter} (plain : e.isConstant = false) :
    c.directiveOf (e, p) = .error (c.mismatch p) := by
  cases e with
  | directive => cases plain
  | _ => rfl

theorem mismatch_of_signature (same : c'.signature = c.signature) (p : Parameter) :
    c'.mismatch p = c.mismatch p := by
  rw [CallOf.mismatch, CallOf.mismatch, same]

theorem mismatch_agrees (same : c'.signature = c.signature)
    (agrees : renderer.ArgumentAgrees context argument argument') :
    c'.mismatch argument'.2 = c.mismatch argument.2 := by
  rw [mismatch_of_signature same, agrees.parameter]

theorem directiveOf_agrees (same : c'.signature = c.signature)
    (agrees : renderer.ArgumentAgrees context argument argument') :
    Alike renderer.DirectiveAgrees (c.directiveOf argument) (c'.directiveOf argument') := by
  have held {d d' : Directive} (agree : renderer.DirectiveAgrees d d') (p : Parameter) :
      Alike renderer.DirectiveAgrees (c.directiveOf (.directive d, p))
        (c'.directiveOf (.directive d', p)) := by
    have kind : d'.kind = d.kind := by cases agree <;> rfl
    rw [directiveOf, directiveOf]
    dsimp only
    rw [kind, mismatch_of_signature same]
    split
    · exact .ok agree
    · exact .error _
  rcases argument with ⟨e, p⟩
  rcases argument' with ⟨e', p'⟩
  have parameter : p' = p := agrees.parameter
  subst parameter
  have looks : renderer.LooksLike e e' := agrees.looks
  cases looks with
  | same e =>
    by_cases plain : e.isConstant = false
    · rw [directiveOf_of_open plain, directiveOf_of_open plain, mismatch_of_signature same]
      exact .error _
    · cases e with
      | directive d => exact held (.same d) p'
      | value | aliased =>
        rw [directiveOf, directiveOf]
        dsimp only
        rw [mismatch_of_signature same]
        exact .error _
      | _ => exact absurd rfl plain
  | directive agree => exact held agree p'
  | other plain plain' =>
    rw [directiveOf_of_open plain, directiveOf_of_open plain', mismatch_of_signature same]
    exact .error _

theorem formatArgument_of_open {format : Format} {p : Parameter} (plain : e.isConstant = false) :
    formatArgument format (e, p) = .ok (e, p) := by
  cases e with
  | value => cases plain
  | _ => rfl

theorem formatArgument_agrees (format : Format)
    (agrees : renderer.ArgumentAgrees context argument argument') :
    Alike (renderer.ArgumentAgrees context) (formatArgument format argument)
      (formatArgument format argument') := by
  rcases argument with ⟨e, p⟩
  rcases argument' with ⟨e', p'⟩
  have parameter : p' = p := agrees.parameter
  subst parameter
  have looks : renderer.LooksLike e e' := agrees.looks
  cases looks with
  | same e => exact .self fun formatted _ => .refl formatted
  | directive => exact .ok agrees
  | other plain plain' =>
    rw [formatArgument_of_open plain, formatArgument_of_open plain']
    exact .ok agrees

section Options

variable {options options' : Options} {target target' : Expr}

theorem addOption_agrees (agree : List.Forall₂ (renderer.OptionAgrees context) options options')
    (key : String) (agrees : renderer.Agrees itContext e e') (type : TypeRef) :
    Alike (List.Forall₂ (renderer.OptionAgrees context)) (addOption options key e type)
      (addOption options' key e' type) := by
  have keys : options'.map Prod.fst = options.map Prod.fst := by
    induction agree with
    | nil => rfl
    | cons head _ ih => rw [List.map_cons, List.map_cons, head.key, ih]
  rw [addOption, addOption, keys]
  split
  · exact .error _
  · have entry : renderer.OptionAgrees context
        (key, .inContext (.named e (.ofType key type)) itContext)
        (key, .inContext (.named e' (.ofType key type)) itContext) :=
      ⟨rfl, agrees.named.inContext⟩
    exact .ok (List.rel_append agree (.cons entry .nil))

theorem addClause_agrees (agree : List.Forall₂ (renderer.OptionAgrees context) options options')
    (query : renderer.QueryAgrees e e') :
    Alike (List.Forall₂ (renderer.OptionAgrees context)) (addClause options e)
      (addClause options' e') := by
  rw [addClause, addClause, query.key, query.agrees.concreteType]
  apply Alike.step
  intro key _
  exact addOption_agrees agree key query.agrees _

theorem addQueries_agrees (target_agrees : renderer.Agrees context target target')
    (agree : List.Forall₂ (renderer.OptionAgrees context) options options')
    {build build' : Schema → TypeRef → Except Error (List Expr)}
    (each : ∀ schema type,
      Alike (List.Forall₂ renderer.QueryAgrees) (build schema type) (build' schema type))
    (schema : Schema) (cause : Error) :
    Alike (List.Forall₂ (renderer.OptionAgrees context))
      (match target.concreteType? with
        | none => .error cause
        | some type => do (← build schema (← expandedType type)).foldlM addClause options)
      (match target'.concreteType? with
        | none => .error cause
        | some type => do (← build' schema (← expandedType type)).foldlM addClause options') := by
  rw [target_agrees.concreteType]
  cases target.concreteType? with
  | none => exact .error _
  | some type =>
    apply Alike.step
    intro element _
    apply (each schema element).bind
    intro queries queries' alike
    apply Alike.foldlM agree
    exact alike.imp fun _ _ query options options' agree => addClause_agrees agree query

theorem addOptions_agrees (schema : Schema) (same : c'.signature = c.signature)
    (target_agrees : renderer.Agrees context target target')
    (agree : List.Forall₂ (renderer.OptionAgrees context) options options')
    (agrees : renderer.ArgumentAgrees context argument argument') :
    Alike (List.Forall₂ (renderer.OptionAgrees context))
      (c.addOptions schema target options argument)
      (c'.addOptions schema target' options' argument') := by
  rw [addOptions, addOptions, mismatch_agrees same agrees]
  apply (directiveOf_agrees same agrees).bind
  intro d d' held
  cases held with
  | same =>
    cases d with
    | countOption =>
      dsimp only
      rw [target_agrees.concreteType]
      split
      · exact addOption_agrees agree "$count" (.refl _) .boolean
      · exact .error _
    | subQueries build =>
      have itself : ∀ schema type,
          Alike (List.Forall₂ renderer.QueryAgrees) (build schema type) (build schema type) :=
        fun schema type => .self fun _ _ => List.forall₂_same.mpr fun _ _ => ⟨.refl _, rfl⟩
      exact addQueries_agrees target_agrees agree itself schema _
    | customName | format | rawPaths | rawText | result => exact .error _
  | rawPaths => exact .error _
  | subQueries each => exact addQueries_agrees target_agrees agree each schema _

theorem optionParts_agrees (agree : List.Forall₂ (renderer.OptionAgrees context) options options')
    (opening : String) :
    List.Forall₂ (Agrees.OfParts renderer context) (optionParts opening options)
      (optionParts opening options') := by
  induction agree generalizing opening with
  | nil => exact .cons (.text ")") .nil
  | cons head _ ih => exact .cons (.text opening) (.cons (.expr head.agrees) (ih ";"))

theorem expandedTarget_agrees (target_agrees : renderer.Agrees context target target')
    (agree : List.Forall₂ (renderer.OptionAgrees context) options options') (p : Parameter) :
    renderer.ArgumentAgrees context (expandedTarget target options, p)
      (expandedTarget target' options', p) := by
  refine ⟨rfl, ?_, .other rfl rfl, fun layout => by cases layout <;> rfl⟩
  rw [expandedTarget, expandedTarget, target_agrees.result]
  apply Agrees.assembled
  apply List.Forall₂.cons (.expr target_agrees)
  cases agree with
  | nil => exact .nil
  | cons head rest => exact optionParts_agrees (.cons head rest) "("

end Options

theorem last_agrees (agree : List.Forall₂ (renderer.ArgumentAgrees context) args args') :
    Option.Rel (renderer.ArgumentAgrees context) args.getLast? args'.getLast? ∧
      List.Forall₂ (renderer.ArgumentAgrees context) args.dropLast args'.dropLast := by
  induction agree with
  | nil => exact ⟨.none, .nil⟩
  | cons head rest ih =>
    cases rest with
    | nil => exact ⟨.some head, .nil⟩
    | cons next others =>
      rw [List.getLast?_cons_cons, List.getLast?_cons_cons]
      exact ⟨ih.1, .cons head ih.2⟩

theorem options_agree (agree : List.Forall₂ (renderer.ArgumentAgrees context) args args') :
    List.Forall₂ (renderer.ArgumentAgrees context) (args.takeWhile isOption)
        (args'.takeWhile isOption) ∧
      List.Forall₂ (renderer.ArgumentAgrees context) (args.dropWhile isOption)
        (args'.dropWhile isOption) := by
  induction agree with
  | nil => exact ⟨.nil, .nil⟩
  | cons head rest ih =>
    rw [List.takeWhile_cons, List.takeWhile_cons, List.dropWhile_cons, List.dropWhile_cons,
      head.isOption]
    split
    · exact ⟨.cons head ih.1, ih.2⟩
    · exact ⟨.nil, .cons head rest⟩

theorem signatureWithout_agrees (same : c'.signature = c.signature)
    (removed : List.Forall₂ (renderer.ArgumentAgrees context) args args') :
    c'.signatureWithout args' = c.signatureWithout args := by
  have names : (args'.map fun argument => argument.2.name) =
      args.map fun argument => argument.2.name := by
    induction removed with
    | nil => rfl
    | cons head _ ih => rw [List.map_cons, List.map_cons, head.parameter, ih]
  rw [CallOf.signatureWithout, CallOf.signatureWithout, same, names]

theorem settledSignature_agrees (same : c'.signature = c.signature)
    (agrees : renderer.ArgumentAgrees context argument argument') (type : TypeRef) :
    c'.settledSignature argument' type = c.settledSignature argument type := by
  rw [CallOf.settledSignature, CallOf.settledSignature, same,
    signatureWithout_agrees same (.cons agrees .nil)]

section Rounds

variable {before before' after after' : List Argument}

theorem expand_agrees (schema : Schema) (calls : renderer.CallAgrees context c c')
    (front : List.Forall₂ (renderer.ArgumentAgrees context) before before')
    (first : renderer.ArgumentAgrees context argument argument')
    (rest : List.Forall₂ (renderer.ArgumentAgrees context) after after') :
    Alike (renderer.RoundAgrees context) (c.expand schema before argument after)
      (c'.expand schema before' argument' after') := by
  rcases last_agrees front with ⟨last, others⟩
  rcases options_agree rest with ⟨taken, left⟩
  rw [expand, expand, mismatch_agrees calls.signature first]
  generalize before.getLast? = target, before'.getLast? = target' at last ⊢
  cases last with
  | none => exact .error _
  | @some target target' agrees =>
    rcases target with ⟨target, p⟩
    rcases target' with ⟨target', p'⟩
    have parameter : p' = p := agrees.parameter
    subst parameter
    have given := List.Forall₂.cons first taken
    have gathered : Alike (List.Forall₂ (renderer.OptionAgrees context))
        ((argument :: after.takeWhile isOption).foldlM (c.addOptions schema target) [])
        ((argument' :: after'.takeWhile isOption).foldlM (c'.addOptions schema target') []) := by
      apply Alike.foldlM .nil
      exact given.imp fun _ _ option options options' agree =>
        addOptions_agrees schema calls.signature agrees.agrees agree option
    apply gathered.bind
    intro options options' agree
    refine .ok (.next ⟨signatureWithout_agrees calls.signature given, calls.receiver, ?_⟩)
    exact List.rel_append others (.cons (expandedTarget_agrees agrees.agrees agree p') left)

theorem handWritten_agrees (calls : renderer.CallAgrees context c c')
    (first : renderer.ArgumentAgrees context argument argument')
    {paths paths' : List (String × Expr)} (each : List.Forall₂ renderer.PathAgrees paths paths') :
    List.Forall₂ (renderer.ArgumentAgrees context) after after' →
    Alike (renderer.RoundAgrees context)
      (match after with
        | [] => .error (c.mismatch argument.2)
        | executor :: _ => do
          match ← c.directiveOf executor with
          | .rawText write => pure (.rawText paths write)
          | _ => .error (c.mismatch executor.2))
      (match after' with
        | [] => .error (c'.mismatch argument'.2)
        | executor :: _ => do
          match ← c'.directiveOf executor with
          | .rawText write => pure (.rawText paths' write)
          | _ => .error (c'.mismatch executor.2)) := by
  intro rest
  cases rest with
  | nil =>
    rw [mismatch_agrees calls.signature first]
    exact .error _
  | cons executor _ =>
    dsimp only
    rw [mismatch_agrees calls.signature executor]
    apply (directiveOf_agrees calls.signature executor).bind
    intro d d' held
    cases held with
    | same =>
      cases d with
      | rawText write => exact .ok (.rawText each)
      | _ => exact .error _
    | rawPaths | subQueries => exact .error _

theorem round_agrees (schema : Schema) (calls : renderer.CallAgrees context c c') :
    Alike (renderer.RoundAgrees context) (c.round schema) (c'.round schema) := by
  have split := splitDirective_agrees calls.args
  rw [CallOf.round, CallOf.round]
  generalize splitDirective c.args = found, splitDirective c'.args = found' at split ⊢
  cases split with
  | none => exact .ok .finished
  | @some found found' agree =>
    rcases found with ⟨before, argument, after⟩
    rcases found' with ⟨before', argument', after'⟩
    rcases agree with ⟨front, first, rest⟩
    dsimp only at front first rest
    have others := List.rel_append front rest
    have narrowed := signatureWithout_agrees calls.signature (.cons first .nil)
    apply (directiveOf_agrees calls.signature first).bind
    intro d d' held
    cases held with
    | same =>
      cases d with
      | customName name => exact .ok (.next ⟨narrowed, .some (.refl _), others⟩)
      | result type =>
        exact .ok (.next ⟨settledSignature_agrees calls.signature first _, calls.receiver, others⟩)
      | format format =>
        have formatted := Alike.mapM (others.imp fun _ _ => formatArgument_agrees format)
        apply formatted.bind
        intro args args' agree
        exact .ok (.next ⟨narrowed, calls.receiver, agree⟩)
      | rawPaths paths =>
        have itself : List.Forall₂ renderer.PathAgrees paths paths :=
          List.forall₂_same.mpr fun _ _ => ⟨rfl, .refl _⟩
        exact handWritten_agrees calls first itself rest
      | rawText write =>
        dsimp only
        rw [mismatch_agrees calls.signature first]
        exact .error _
      | subQueries | countOption => exact expand_agrees schema calls front first rest
    | rawPaths each => exact handWritten_agrees calls first each rest
    | subQueries => exact expand_agrees schema calls front first rest

end Rounds

theorem reduce_agrees (schema : Schema) (calls : renderer.CallAgrees context c c') :
    Alike (renderer.ReducedAgrees context) (c.reduce schema) (c'.reduce schema) := by
  induction size : c.args.length using Nat.strongRecOn generalizing c c' with
  | ind size ih =>
    subst size
    have alike := round_agrees schema calls
    rw [CallOf.reduce_round, CallOf.reduce_round]
    cases worked : c.round schema with
    | error e =>
      rw [worked] at alike
      generalize c'.round schema = other at alike ⊢
      cases alike
      exact .error e
    | ok result =>
      rw [worked] at alike
      generalize c'.round schema = other at alike ⊢
      cases alike with
      | ok agrees =>
        cases agrees with
        | finished => exact .ok (.call calls)
        | rawText each => exact .ok (.rawText each)
        | next next => exact ih _ (round_next_length worked) next rfl

end Reduction

section Calls

variable {c c' : Call}

theorem receiver_agrees (calls : renderer.CallAgrees context c c') {scope : Scope}
    (inside : scope.context = context) :
    renderer.receiverRendering c' scope = renderer.receiverRendering c scope := by
  have received := calls.receiver
  rw [receiverRendering, receiverRendering]
  generalize c.receiver = receiver, c'.receiver = receiver' at received ⊢
  cases received with
  | none => rfl
  | some agrees => exact agrees.evaluated scope.nested inside

theorem operands_agree (calls : renderer.CallAgrees context c c') {scope : Scope}
    (inside : scope.context = context) :
    c'.args.mapM (renderer.operand c' scope) = c.args.mapM (renderer.operand c scope) := by
  apply mapM_congr
  apply calls.args.imp
  intro argument argument' agrees
  rw [operand, operand, agrees.parameter, agrees.isDirective, calls.signature]
  split
  · rfl
  · rw [agrees.agrees.evaluated scope.atTop inside]
    simp only [operandText, agrees.parentheses]

theorem paths_agree {paths paths' : List (String × Expr)}
    (each : List.Forall₂ renderer.PathAgrees paths paths') :
    paths'.mapM renderer.pathText = paths.mapM renderer.pathText := by
  apply mapM_congr
  apply each.imp
  intro path path' agrees
  rw [pathText, pathText, agrees.name, agrees.agrees.evaluated .it rfl]

/-- Calls of parts that can stand for one another can themselves. -/
theorem CallAgrees.agrees (calls : renderer.CallAgrees context c c') :
    renderer.Agrees context (.call c) (.call c') := by
  refine ⟨fun scope inside => ?_, ?_⟩
  · have alike := reduce_agrees renderer.schema calls
    rw [evaluate_reduced, evaluate_reduced]
    generalize c.reduce renderer.schema = reduced, c'.reduce renderer.schema = reduced' at alike ⊢
    cases alike with
    | error e => rfl
    | ok agrees =>
      rw [Traced.ofExcept_ok, Traced.ofExcept_ok, pure_bind, pure_bind]
      cases agrees with
      | rawText each => rw [reducedRendering, reducedRendering, paths_agree each]
      | call calls =>
        rw [reducedRendering, reducedRendering, receiver_agrees calls inside,
          operands_agree calls inside, checkCall, checkCall, calls.signature]
  · rw [Expr.result?, Expr.result?, calls.signature]

end Calls
end Renderer
end ODataRequest
