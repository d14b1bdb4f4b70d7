import ODataRequest.Proofs.Expansion
import ODataRequest.Proofs.Layouts
import ODataRequest.Proofs.WrittenCalls
namespace ODataRequest

namespace CallOf

inductive Joins : List Expr → Call → Prop
  | all {conditions : List Expr} {c : Call} :
    Filter.all conditions = .ok (.call c) → Joins conditions c
  | some {conditions : List Expr} {c : Call} :
    Filter.some conditions = .ok (.call c) → Joins conditions c
  | properties {paths : List Expr} {c : Call} :
    Select.properties paths = .ok (.call c) → Joins paths c
  | terms {terms : List Expr} {c : Call} :
    OrderBy.terms terms = .ok (.call c) → Joins terms c
  | combine {expansions : List Expr} {c : Call} :
    Expand.combine expansions = .ok (.call c) → Joins expansions c

def Connects (c : Call) : Prop :=
  ∃ conditions, Filter.all conditions = .ok (.call c) ∨ Filter.some conditions = .ok (.call c)

structure DeclaresList (s : Signature) (p : Parameter) : Prop where
  parameters : s.parameters = [p]
  repeated : p.repeated = true
  operand : p.directiveKind? = none
  expected : ∀ bindings type, Signature.resolvedType? p bindings = some type →
    type.innermost.isRaw = false
  valid : s.validate = .ok ()
  typed : ∃ type, s.result = .type type
  laid : ∃ separator, separator ≠ "" ∧ ∀ receiver texts,
    Renderer.callText s.layout receiver texts = Text.joined separator texts
  bare : s.layout ≠ .plain
  unfilled : ¬s.Fills
  clausal : s.option ∈ [QueryOption.filter, .select, .expand, .orderBy]

/-- A list as rendering sees it: the operands, of which untyped constants have taken a type that
is not raw. -/
structure JoinsOf (operands : List Expr) (c : Call) : Prop where
  declared : ∃ p, DeclaresList c.signature p ∧ ∃ type,
    c.args = operands.map (fun e => (e.expecting type, p)) ∧
      ∀ given, type = some given → given.innermost.isRaw = false
  receiver : c.receiver = none

variable {operands : List Expr} {c : Call}

theorem JoinsOf.plain (joins : JoinsOf operands c) :
    ∀ argument ∈ c.args, argument.2.directiveKind? = none := by
  intro argument member
  obtain ⟨p, declares, type, args, _⟩ := joins.declared
  rw [args] at member
  obtain ⟨e, _, rfl⟩ := List.mem_map.mp member
  exact declares.operand

theorem laid_between (operator : String) : ∃ separator, separator ≠ "" ∧ ∀ receiver texts,
    Renderer.callText (.between operator) receiver texts = Text.joined separator texts :=
  ⟨" " ++ operator ++ " ", by simp, fun _ _ => rfl⟩

theorem laid_comma : ∃ separator, separator ≠ "" ∧ ∀ receiver texts,
    Renderer.callText (.joined ",") receiver texts = Text.joined separator texts :=
  ⟨",", by decide, fun _ _ => rfl⟩

theorem joinsOf_of_declares {option : QueryOption} {name : String}
    (declared : ∃ s p, Builtin.signature option name = .ok s ∧ DeclaresList s p)
    (applied : callBuiltin option name operands = .ok (.call c)) : JoinsOf operands c := by
  obtain ⟨s, p, found, declares⟩ := declared
  have walk := Signature.pairing_repeated declares.repeated declares.operand operands
  rw [← declares.parameters] at walk
  rw [callBuiltin, found] at applied
  change s.apply none operands = _ at applied
  rw [Signature.apply_of_pairing walk] at applied
  cases applied
  let bindings := Signature.bind (operands.map (·, p))
  have typed : (operands.map (·, p)).map (Signature.typeConstant bindings) =
      operands.map fun e => (e.expecting (Signature.resolvedType? p bindings), p) := by
    rw [List.map_map]
    exact List.map_congr_left fun e _ => Signature.typeConstant_eq bindings (e, p)
  exact ⟨⟨p, declares, _, typed, declares.expected bindings⟩, rfl⟩

theorem declares_condition {name : String} (condition : name = "and" ∨ name = "or") :
    ∃ s p, Builtin.signature .filter name = .ok s ∧ DeclaresList s p := by
  have sealed : ∀ type, some TypeRef.boolean = some type → type.innermost.isRaw = false := by
    rintro _ ⟨⟩
    rfl
  rcases condition with rfl | rfl
  all_goals
    exact ⟨_, _, rfl, rfl, rfl, rfl, fun _ => sealed, rfl, ⟨_, rfl⟩, laid_between _, nofun,
      fun fills => absurd fills.laid (by decide), by decide⟩

theorem declares_items {option : QueryOption} {name : String}
    (listed : (option, name) ∈
      [(QueryOption.select, "select"), (.orderBy, "orderBy"), (.expand, "combine")]) :
    ∃ s p, Builtin.signature option name = .ok s ∧ DeclaresList s p := by
  simp only [List.mem_cons, Prod.mk.injEq, List.not_mem_nil, or_false] at listed
  rcases listed with ⟨rfl, rfl⟩ | ⟨rfl, rfl⟩ | ⟨rfl, rfl⟩
  all_goals
    exact ⟨_, _, rfl, rfl, rfl, rfl, fun _ _ => nofun, rfl, ⟨_, rfl⟩, laid_comma, nofun,
      fun fills => fills.laid, by decide⟩

theorem joinsOf_of_joins (joins : Joins operands c) : JoinsOf operands c := by
  cases joins with
  | all applied => exact joinsOf_of_declares (declares_condition (.inl rfl)) applied
  | some applied => exact joinsOf_of_declares (declares_condition (.inr rfl)) applied
  | properties applied => exact joinsOf_of_declares (declares_items (by simp)) applied
  | terms applied => exact joinsOf_of_declares (declares_items (by simp)) applied
  | combine applied => exact joinsOf_of_declares (declares_items (by simp)) applied

theorem Joins.name (joins : Joins operands c) :
    c.signature.name ∈ ["and", "or", "select", "orderBy", "combine"] := by
  cases joins
  all_goals
    rename_i made
    obtain ⟨s, found, applied⟩ := bind_eq_ok.mp made
    cases found
    rw [(Signature.given_of_apply applied).2.1]
    decide

theorem Connects.joins (connects : c.Connects) : ∃ conditions, Joins conditions c := by
  obtain ⟨conditions, applied | applied⟩ := connects
  · exact ⟨conditions, .all applied⟩
  · exact ⟨conditions, .some applied⟩

end CallOf

namespace Renderer

/-- Rendered in the scope, and as nothing. -/
def Silent (renderer : Renderer) (scope : Scope) (e : Expr) : Prop :=
  ∃ rendering, (renderer.evaluate e scope).outcome = .ok rendering ∧ rendering.textOrEmpty = ""

variable {renderer : Renderer} {scope : Scope} {operands : List Expr} {c : Call} {e target : Expr}
  {rendering : Rendering} {options : List ExpandOption}

theorem operandText_eq_empty_iff {layout : Layout} {text : String} :
    operandText layout e text = "" ↔ needsParentheses layout e = false ∧ text = "" := by
  unfold operandText
  cases needsParentheses layout e <;> simp

theorem silent_operand {argument : CallOf.Argument} (plain : argument.2.directiveKind? = none) :
    (∃ root, (renderer.operand c scope argument).outcome = .ok (root, "")) ↔
      needsParentheses c.signature.layout argument.1 = false ∧
        renderer.Silent scope.atTop argument.1 := by
  simp only [(operand_laidOut plain).outcome, laidOut, Traced.outcome_bind_eq_ok]
  constructor
  · rintro ⟨root, rendering, evaluated, same⟩
    have empty := congrArg Prod.snd (Except.ok.inj same)
    obtain ⟨bare, empty⟩ := operandText_eq_empty_iff.mp empty
    exact ⟨bare, rendering, evaluated, empty⟩
  · rintro ⟨bare, rendering, evaluated, empty⟩
    refine ⟨rendering.root, rendering, evaluated, ?_⟩
    rw [operandText_eq_empty_iff.mpr ⟨bare, empty⟩]
    rfl

theorem evaluate_joinsOf (joins : CallOf.JoinsOf operands c) :
    (renderer.evaluate (.call c) scope).outcome = .ok rendering ↔ ∃ texts,
      (c.args.mapM (renderer.operand c scope)).outcome = .ok texts ∧
        rendering = ⟨firstRoot (none :: texts.map Prod.fst),
          some (callText c.signature.layout none (texts.map Prod.snd))⟩ := by
  obtain ⟨p, declares, _⟩ := joins.declared
  have checked : checkCall c = .ok () := by
    obtain ⟨type, typed⟩ := declares.typed
    rw [checkCall, declares.valid, typed]
    rfl
  have received : renderer.receiverRendering c scope = pure .empty := by
    rw [receiverRendering, joins.receiver]
  rw [evaluate_call (CallOf.reduce_of_plain joins.plain), checked, Traced.ofExcept_ok, pure_bind,
    received, pure_bind, Traced.outcome_bind_eq_ok]
  constructor
  · rintro ⟨texts, written, same⟩
    cases same
    exact ⟨texts, written, rfl⟩
  · rintro ⟨texts, written, rfl⟩
    exact ⟨texts, written, rfl⟩

/-- A list is written as nothing if it holds nothing, or only something written as nothing. -/
theorem silent_joinsOf (joins : CallOf.JoinsOf operands c) :
    renderer.Silent scope (.call c) ↔ c.args = [] ∨ ∃ argument, c.args = [argument] ∧
      needsParentheses c.signature.layout argument.1 = false ∧
        renderer.Silent scope.atTop argument.1 := by
  obtain ⟨p, declares, _⟩ := joins.declared
  obtain ⟨separator, filled, laid⟩ := declares.laid
  unfold Silent
  simp only [evaluate_joinsOf joins, Traced.mapM_eq_ok]
  constructor
  · rintro ⟨_, ⟨texts, written, rfl⟩, empty⟩
    change callText c.signature.layout none (texts.map Prod.snd) = "" at empty
    rw [laid, Text.joined_eq_empty_iff filled] at empty
    rcases empty with none_written | one
    · rw [List.map_eq_nil_iff.mp none_written, List.forall₂_nil_right_iff] at written
      exact .inl written
    · obtain ⟨⟨root, text⟩, rfl, rfl⟩ := List.map_eq_singleton_iff.mp one
      obtain ⟨argument, rest, head, tail, single⟩ := List.forall₂_cons_right_iff.mp written
      cases List.forall₂_nil_right_iff.mp tail
      have operand := joins.plain argument (single ▸ List.mem_cons_self)
      exact .inr ⟨argument, single, (silent_operand operand).mp ⟨root, head⟩⟩
  · rintro (nothing | ⟨argument, single, bare, silent⟩)
    · refine ⟨_, ⟨[], nothing ▸ .nil, rfl⟩, ?_⟩
      change callText c.signature.layout none [] = ""
      rw [laid]
      rfl
    · have operand := joins.plain argument (single ▸ List.mem_cons_self)
      obtain ⟨root, written⟩ := (silent_operand operand).mpr ⟨bare, silent⟩
      refine ⟨_, ⟨[(root, "")], single ▸ .cons written .nil, rfl⟩, ?_⟩
      change callText c.signature.layout none [""] = ""
      rw [laid]
      rfl

theorem silent_plain {c' : Call} {p : Parameter}
    (reduced : c.reduce renderer.schema = .ok (.call c')) (args : c'.args = [(e, p)])
    (operand : p.directiveKind? = none) (layout : c'.signature.layout = .plain)
    (checked : checkCall c' = .ok ()) (receiver : c'.receiver = none) :
    renderer.Silent scope (.call c) ↔ renderer.Silent scope.atTop e := by
  have received : renderer.receiverRendering c' scope = pure .empty := by
    rw [receiverRendering, receiver]
  have bare : needsParentheses c'.signature.layout e = false := by rw [layout]; rfl
  have silent : (∃ root, (renderer.operand c' scope (e, p)).outcome = .ok (root, "")) ↔
      renderer.Silent scope.atTop e := (silent_operand operand).trans (and_iff_right bare)
  rw [← silent]
  unfold Silent
  rw [evaluate_call reduced, checked, Traced.ofExcept_ok, pure_bind, received, pure_bind, args]
  simp only [Traced.outcome_bind_eq_ok, Traced.mapM_eq_ok, layout]
  constructor
  · rintro ⟨_, ⟨texts, written, same⟩, empty⟩
    obtain ⟨⟨root, text⟩, _, head, tail, rfl⟩ := List.forall₂_cons_left_iff.mp written
    cases List.forall₂_nil_left_iff.mp tail
    cases same
    have unwritten : text = "" := by
      simpa [Rendering.textOrEmpty, callText, Text.joined] using empty
    exact ⟨root, unwritten ▸ head⟩
  · rintro ⟨root, written⟩
    exact ⟨_, ⟨[(root, "")], .cons written .nil, rfl⟩, rfl⟩

theorem silent_expandedTarget {entries : CallOf.Options} :
    renderer.Silent scope (CallOf.expandedTarget target entries) ↔
      entries = [] ∧ renderer.Silent scope target := by
  unfold Silent
  rw [CallOf.expandedTarget, evaluate_assembled]
  simp only [Traced.outcome_bind_eq_ok, Traced.mapM_eq_ok]
  constructor
  · rintro ⟨_, ⟨renderings, written, same⟩, empty⟩
    obtain ⟨rendering, others, head, tail, rfl⟩ := List.forall₂_cons_left_iff.mp written
    cases same
    have joined : String.join ((rendering :: others).map Rendering.textOrEmpty) = "" := empty
    rw [List.map_cons, String.join_cons, String.append_eq_empty_iff] at joined
    cases entries with
    | nil => exact ⟨rfl, rendering, head, joined.1⟩
    | cons entry entries =>
      obtain ⟨_, others, opened, _, rfl⟩ := List.forall₂_cons_left_iff.mp tail
      cases opened
      rw [List.map_cons, String.join_cons, String.append_eq_empty_iff] at joined
      exact absurd joined.2.1 (by decide)
  · rintro ⟨rfl, rendering, evaluated, empty⟩
    refine ⟨_, ⟨[rendering], .cons evaluated .nil, rfl⟩, ?_⟩
    change String.join [rendering.textOrEmpty] = ""
    rw [empty]
    rfl

theorem gathers_nothing_iff {schema : Schema} {given : List ExpandOption} :
    (given.map ExpandOption.argument).foldlM (c.addOptions schema target) [] = .ok [] ↔
      ∀ option ∈ given, option.Asks schema target [] := by
  have start : (([] : CallOf.Options).map Prod.fst).Nodup := List.nodup_nil
  constructor
  · intro gathered option member
    obtain ⟨asked, asks, added⟩ := CallOf.addAllOptions_eq_ok.mp gathered
    obtain ⟨entered, enters, _, same⟩ := (CallOf.addAllAsked_eq_ok start).mp added
    cases (List.nil_append entered).symm.trans same.symm
    have nothing := List.flatten_eq_nil_iff.mp (List.forall₂_nil_right_iff.mp enters)
    obtain ⟨one, present, asks⟩ := exists_of_forall₂ asks member
    exact nothing one present ▸ asks
  · intro asks
    have each : List.Forall₂ (ExpandOption.Asks schema target) given (given.map fun _ => []) :=
      List.forall₂_map_right_iff.mpr (List.forall₂_same.mpr asks)
    have flat : (given.map fun _ => ([] : List Asked)).flatten = [] := by simp
    rw [CallOf.addAllOptions_of_asks each, flat]
    rfl

/-- An expansion is written as nothing if its target is and none of its options asks for
anything. -/
theorem silent_expansion : renderer.Silent scope (.call (Expand.call target options)) ↔
    renderer.Silent scope.atTop target ∧
      ∀ option ∈ Expand.ordered options, option.Asks renderer.schema target [] := by
  by_cases bare : Expand.ordered options = []
  · have args : (Expand.call target options).args = [(target, Expand.targetParameter)] := by
      rw [Expand.call, bare]
      rfl
    have reduced : (Expand.call target options).reduce renderer.schema =
        .ok (.call (Expand.call target options)) :=
      CallOf.reduce_of_plain (args ▸ List.forall_mem_singleton.mpr rfl)
    rw [silent_plain reduced args rfl rfl rfl rfl, bare]
    simp
  have worked : (Expand.call target options).reduce renderer.schema = _ := Expand.reduce_call bare
  rw [← gathers_nothing_iff (c := Expand.call target options)]
  cases gathered : ((Expand.ordered options).map ExpandOption.argument).foldlM
      ((Expand.call target options).addOptions renderer.schema target) [] with
  | error failure =>
    rw [gathered] at worked
    constructor
    · rintro ⟨rendering, evaluated, _⟩
      rw [evaluate_irreducible worked] at evaluated
      cases evaluated
    · rintro ⟨_, ⟨⟩⟩
  | ok entries =>
    rw [gathered] at worked
    rw [silent_plain worked rfl rfl rfl (Expand.checkCall_narrowed _ _ _) rfl,
      silent_expandedTarget, and_comm, Except.ok.injEq]

end Renderer
end ODataRequest
