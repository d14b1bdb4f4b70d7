import ODataRequest.Proofs.Occurrences
import Mathlib.Data.List.Forall2
namespace ODataRequest

/-!
Calls that only lay out their operands. Once the directives of such a call are worked in, its text
shows nothing of its signature but the layout: calls of different signatures are written alike if
their layouts and operands are.
-/

namespace Traced

variable {α β γ : Type}

/-- The same aliases met, and the same value or a failure of both. -/
structure Equivalent (x y : Traced α) : Prop where
  met : x.met = y.met
  outcome : ∀ a, x.outcome = .ok a ↔ y.outcome = .ok a

namespace Equivalent

variable {x y z : Traced α}

theorem refl (x : Traced α) : Equivalent x x := ⟨rfl, fun _ => .rfl⟩

theorem symm (same : Equivalent x y) : Equivalent y x :=
  ⟨same.met.symm, fun a => (same.outcome a).symm⟩

theorem trans (first : Equivalent x y) (second : Equivalent y z) : Equivalent x z :=
  ⟨first.met.trans second.met, fun a => (first.outcome a).trans (second.outcome a)⟩

theorem fail (e e' : Error) : Equivalent (.fail e : Traced α) (.fail e') :=
  ⟨rfl, fun _ => ⟨nofun, nofun⟩⟩

theorem bind {f g : α → Traced β} (first : Equivalent x y)
    (next : ∀ a, Equivalent (f a) (g a)) : Equivalent (x >>= f) (y >>= g) := by
  obtain ⟨met, outcome⟩ := x
  obtain ⟨met', outcome'⟩ := y
  obtain ⟨rfl, same⟩ := first
  cases outcome with
  | ok a =>
    have reached : outcome' = .ok a := (same a).mp rfl
    subst reached
    exact ⟨congrArg (met ++ ·) (next a).met, (next a).outcome⟩
  | error e =>
    cases outcome' with
    | ok a => cases (same a).mpr rfl
    | error e' => exact ⟨rfl, fun _ => ⟨nofun, nofun⟩⟩

theorem mapM {f : α → Traced γ} {g : β → Traced γ} {items : List α} {items' : List β}
    (each : List.Forall₂ (fun a b => Equivalent (f a) (g b)) items items') :
    Equivalent (items.mapM f) (items'.mapM g) := by
  induction each with
  | nil => exact refl _
  | cons head _ ih =>
    rw [List.mapM_cons, List.mapM_cons]
    apply bind head
    intro first
    apply bind ih
    intro others
    exact refl _

end Equivalent
end Traced

namespace CallOf

/-- Without directives or a receiver, and ready to be rendered. -/
structure Bare (layout : Layout) (operands : List Expr) (c : Call) : Prop where
  laid : c.signature.layout = layout
  receiver : c.receiver = none
  checked : Renderer.checkCall c = .ok ()
  plain : ∀ argument ∈ c.args, argument.2.directiveKind? = none
  given : c.args.map Prod.fst = operands

/-- The directives of the call leave the operands in the layout. -/
structure LaysOut (schema : Schema) (layout : Layout) (operands : List Expr) (c : Call) :
    Prop where
  laid : c.signature.layout = layout
  reduced : ∃ c', c.reduce schema = .ok (.call c') ∧ Bare layout operands c'

variable {schema : Schema} {layout : Layout} {operands : List Expr} {c c' : Call}

theorem Bare.laysOut (bare : Bare layout operands c) : LaysOut schema layout operands c :=
  ⟨bare.laid, c, reduce_of_plain bare.plain, bare⟩

theorem laysOut_of_last {args : List Argument} {argument : Argument}
    (laid : c.signature.layout = layout) (last : c.args = args ++ [argument])
    (kind : argument.2.directiveKind?.isSome = true)
    (plain : ∀ operand ∈ args, operand.2.directiveKind? = none)
    (worked : splitDirective c.args = some (args, argument, []) →
      c.round schema = .ok (.next c'))
    (bare : Bare layout operands c') : LaysOut schema layout operands c := by
  have step := worked (last ▸ splitDirective_of_plain plain kind)
  refine ⟨laid, c', ?_, bare⟩
  rw [reduce_round, step]
  exact reduce_of_plain bare.plain

end CallOf

namespace Renderer

variable {renderer : Renderer} {layout : Layout} {operands operands' : List Expr} {c c' : Call}
  {e e' : Expr} {scope : Scope}

def laidOut (renderer : Renderer) (layout : Layout) (scope : Scope) (e : Expr) :
    Traced (Option RootSymbol × String) := do
  let rendering ← renderer.evaluate e scope.atTop
  pure (rendering.root, operandText layout e rendering.textOrEmpty)

def layOut (renderer : Renderer) (layout : Layout) (operands : List Expr) (scope : Scope) :
    Traced Rendering := do
  let texts ← operands.mapM (renderer.laidOut layout scope)
  pure ⟨firstRoot (texts.map Prod.fst), some (callText layout none (texts.map Prod.snd))⟩

/-- A directive is no operand, wherever this is found out. -/
theorem operand_laidOut {argument : Expr × Parameter}
    (plain : argument.2.directiveKind? = none) :
    Traced.Equivalent (renderer.operand c scope argument)
      (renderer.laidOut c.signature.layout scope argument.1) := by
  rw [operand, plain, laidOut]
  cases directive : isDirective argument.1 with
  | false => exact .refl _
  | true =>
    obtain ⟨e, p⟩ := argument
    cases e with
    | directive d =>
      rw [evaluate_directive]
      exact .fail _ _
    | _ => cases directive

theorem evaluate_bare (bare : c.Bare layout operands) (scope : Scope) :
    Traced.Equivalent (renderer.evaluate (.call c) scope)
      (renderer.layOut layout operands scope) := by
  obtain ⟨rfl, receiver, checked, plain, rfl⟩ := bare
  have received : renderer.receiverRendering c scope = pure .empty := by
    rw [receiverRendering, receiver]
  rw [evaluate_call (CallOf.reduce_of_plain plain), checked, Traced.ofExcept_ok, pure_bind,
    received, pure_bind, layOut]
  apply Traced.Equivalent.bind
  · apply Traced.Equivalent.mapM
    rw [List.forall₂_map_right_iff]
    exact List.forall₂_same.mpr fun argument member => operand_laidOut (plain argument member)
  · intro texts
    exact .refl _

theorem evaluate_operand {text : String} (bare : c.Bare layout operands)
    (rendered : (renderer.render (.call c)).outcome = .ok text) {e : Expr}
    (member : e ∈ operands) : ∃ rendering, (renderer.evaluate e .it).outcome = .ok rendering := by
  obtain ⟨whole, evaluated, _⟩ := Traced.outcome_bind_eq_ok.mp rendered
  have laid := ((evaluate_bare bare .it).outcome whole).mp evaluated
  obtain ⟨texts, written, _⟩ := Traced.outcome_bind_eq_ok.mp laid
  obtain ⟨text, one⟩ := Traced.outcome_of_mapM written member
  obtain ⟨rendering, reached, _⟩ := Traced.outcome_bind_eq_ok.mp one
  exact ⟨rendering, reached⟩

/-- The text of a call that lays its operands out depends on them and on the layout alone. -/
theorem evaluate_laysOut (lays : c.LaysOut renderer.schema layout operands) (scope : Scope) :
    Traced.Equivalent (renderer.evaluate (.call c) scope)
      (renderer.layOut layout operands scope) := by
  obtain ⟨c', reduced, bare⟩ := lays.reduced
  have same : renderer.evaluate (.call c) scope = renderer.evaluate (.call c') scope := by
    rw [evaluate_reduced, evaluate_reduced, reduced, CallOf.reduce_of_plain bare.plain]
  rw [same]
  exact evaluate_bare bare scope

/-- Written alike wherever they stand, as operands too. -/
structure Interchangeable (renderer : Renderer) (e e' : Expr) : Prop where
  evaluated : ∀ scope, Traced.Equivalent (renderer.evaluate e scope) (renderer.evaluate e' scope)
  parentheses : ∀ layout, needsParentheses layout e = needsParentheses layout e'

theorem Interchangeable.refl (e : Expr) : renderer.Interchangeable e e :=
  ⟨fun _ => .refl _, fun _ => rfl⟩

theorem Interchangeable.render (same : renderer.Interchangeable e e') :
    (renderer.render e).Equivalent (renderer.render e') :=
  (same.evaluated .it).bind fun _ => .refl _

theorem layOut_interchangeable (each : List.Forall₂ renderer.Interchangeable operands operands') :
    Traced.Equivalent (renderer.layOut layout operands scope)
      (renderer.layOut layout operands' scope) := by
  apply Traced.Equivalent.bind
  · apply Traced.Equivalent.mapM
    apply each.imp
    intro e e' alike
    have texts : operandText layout e = operandText layout e' := by
      funext text
      rw [operandText, operandText, alike.parentheses]
    rw [laidOut, laidOut, texts]
    exact (alike.evaluated scope.atTop).bind fun rendering => .refl _
  · intro texts
    exact .refl _

theorem interchangeable_of_laysOut (lays : c.LaysOut renderer.schema layout operands)
    (lays' : c'.LaysOut renderer.schema layout operands')
    (each : List.Forall₂ renderer.Interchangeable operands operands') :
    renderer.Interchangeable (.call c) (.call c') := by
  constructor
  case evaluated =>
    intro scope
    have first := evaluate_laysOut lays scope
    have last := evaluate_laysOut lays' scope
    exact first.trans ((layOut_interchangeable each).trans last.symm)
  case parentheses =>
    intro outer
    cases outer <;> simp only [needsParentheses, lays.laid, lays'.laid]

end Renderer
end ODataRequest
