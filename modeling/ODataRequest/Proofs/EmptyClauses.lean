import ODataRequest.Proofs.ClauseText
import ODataRequest.Proofs.JoinedLists
import ODataRequest.Proofs.LiteralTexts
namespace ODataRequest

namespace Expr

/-- What the functions of filters, selections, expansions and orderings make of arguments that
are not raw text. Paths and aliases have names; a format, a given result and the options of an
expansion are arguments as well, and so are the name of a type and the condition of a quantifier
behind its variable. -/
inductive Built : Expr → Prop
  | anchor {symbol : RootSymbol} {name : String} :
    symbol.context = some name → name ≠ "" → Built (.root symbol)
  | property {parent : Option Expr} {name : String} {result : Result} :
    name ≠ "" → (∀ path, parent = some path → Built path) → Built (.property parent name result)
  | constant {v : Value} {type : Option TypeRef} :
    (∀ text, v ≠ .raw text) → (∀ given, type = some given → given.innermost.isRaw = false) →
      Built (.value v type)
  | aliased {param : Alias} {type : Option TypeRef} :
    param.name ≠ "" → (∀ e, param.payload = .reference e → Built e) → Built (.aliased param type)
  | inContext {e : Expr} {context : String} : Built e → Built (.inContext e context)
  | named {e : Expr} {symbol : RootSymbol} {name : String} :
    symbol.context = some name → Built e → Built (.named e symbol)
  | typeName (type : TypeRef) : Built (.raw type.text)
  | condition {e : Expr} (variableName : String) :
    Built e → Built (.assembled [.text (variableName ++ ":"), .expr e] (.type .boolean))
  | format (format : Format) : Built (.directive (.format format))
  | result (type : PrimitiveType) : Built (.directive (.result type))
  | count : Built (.directive ExpandOption.count.directive)
  | clauses {build : Cursor → Except Error (List Clause)} :
    (∀ cursor clauses, build cursor = .ok clauses → ∀ clause ∈ clauses, Built clause.expr) →
      Built (.directive (ExpandOption.clauses build).directive)
  | list {operands : List Expr} {c : Call} :
    CallOf.Joins operands c → (∀ e ∈ operands, Built e) → Built (.call c)
  | expansion {target : Expr} {options : List ExpandOption} {c : Call} :
    Expand.expandWith target options = .ok (.call c) → Built target →
      (∀ option ∈ options, Built (.directive option.directive)) → Built (.call c)
  | function {receiver : Option Expr} {args : List Expr} {c : Call} :
    CallOf.Applies receiver args c → (∀ path, receiver = some path → Built path) →
      (∀ e ∈ args, Built e) → Built (.call c)

/-- Nothing is left of the expression in the end: a list that holds nothing, a list of one such
expression that is not put in parentheses, or an expansion of one without any option. -/
inductive Hollow (schema : Schema) : Expr → Prop
  | nothing {c : Call} : CallOf.Joins [] c → Hollow schema (.call c)
  | single {e : Expr} {c : Call} :
    CallOf.Joins [e] c → Renderer.needsParentheses c.signature.layout e = false →
      Hollow schema e → Hollow schema (.call c)
  | expansion {target : Expr} {options : List ExpandOption} {c : Call} :
    Expand.expandWith target options = .ok (.call c) →
      (∀ option ∈ Expand.ordered options, option.Asks schema target []) →
      Hollow schema target → Hollow schema (.call c)
  | inContext {e : Expr} {context : String} :
    Hollow schema e → Hollow schema (.inContext e context)

/-- Operands of the calls of `and` and `or` in the expression, at whatever depth. -/
def Connects (e operand : Expr) : Prop :=
  ∃ c p, Relation.ReflTransGen PartIn (.call c) e ∧ c.Connects ∧ (operand, p) ∈ c.args

variable {schema : Schema} {e operand : Expr} {c : Call}

theorem Hollow.expecting (hollow : Hollow schema e) (type : Option TypeRef) :
    e.expecting type = e := by
  cases hollow <;> rfl

theorem expecting_cases (e : Expr) (type : Option TypeRef) :
    e.expecting type = e ∨ ∃ v, e = .value v none := by
  unfold expecting
  split
  · exact .inr ⟨_, rfl⟩
  · exact .inl rfl

theorem Built.expecting {type : Option TypeRef} (built : e.Built)
    (sealed : ∀ given, type = some given → given.innermost.isRaw = false) :
    (e.expecting type).Built := by
  unfold Expr.expecting
  split
  · cases built with
    | constant spelled _ => exact .constant spelled sealed
  · exact built

theorem not_built_rawPaths (paths : List (String × Expr)) :
    ¬Built (.directive (.rawPaths paths)) := by
  intro built
  cases built

theorem Built.part {x : Expr} (built : e.Built) (part : PartIn x e) :
    x.Built ∨ ∃ v type, x = .value v type := by
  -- An argument is the one that was given, or a constant that has been given a type.
  have typed {x e : Expr} {type : Option TypeRef} (same : x = e.expecting type) (built : e.Built) :
      x.Built ∨ ∃ v type, x = .value v type := by
    rcases expecting_cases e type with kept | ⟨v, rfl⟩
    · exact .inl (same ▸ kept.symm ▸ built)
    · exact .inr ⟨v, type, same⟩
  cases built with
  | anchor | constant | typeName | format | result | count => cases part
  | property _ path =>
    cases part with
    | parent => exact .inl (path _ rfl)
  | aliased _ referred =>
    cases part with
    | aliased payload => exact .inl (referred _ payload)
  | inContext inner =>
    cases part with
    | inContext => exact .inl inner
  | named _ inner =>
    cases part with
    | named => exact .inl inner
  | condition variableName inner =>
    cases part with
    | assembled member =>
      simp only [List.mem_cons, reduceCtorEq, PartOf.expr.injEq, List.not_mem_nil, or_false,
        false_or] at member
      exact .inl (member ▸ inner)
  | clauses each =>
    cases part with
    | subQuery built member =>
      obtain ⟨cursor, _, opened⟩ := bind_eq_ok.mp built
      obtain ⟨clauses, ran, same⟩ := bind_eq_ok.mp opened
      cases same
      obtain ⟨clause, present, rfl⟩ := List.mem_map.mp member
      exact .inl (each cursor clauses ran clause present)
  | list joins items =>
    have joined := CallOf.joinsOf_of_joins joins
    obtain ⟨p, _, type, args, _⟩ := joined.declared
    cases part with
    | receiver present =>
      rw [joined.receiver] at present
      cases present
    | arg member =>
      rw [args] at member
      obtain ⟨e, present, rfl⟩ := List.mem_map.mp member
      exact typed rfl (items e present)
  | @expansion target options c called target_built given =>
    rw [Expand.expandWith_eq] at called
    cases called
    cases part with
    | receiver present => cases present
    | arg member =>
      rcases List.mem_cons.mp member with rfl | member
      · exact .inl target_built
      · obtain ⟨option, present, rfl⟩ := List.mem_map.mp member
        exact .inl (given option (Expand.mem_of_mem_ordered present))
  | function applies path given =>
    obtain ⟨s, _, applied⟩ := CallOf.writes_of_applies applies
    obtain ⟨received, _, arguments⟩ := Signature.given_of_apply applied
    cases part with
    | receiver present => exact .inl (path _ (received ▸ present))
    | arg member =>
      obtain ⟨e, present, type, same⟩ := arguments _ member
      exact typed same (given e present)

theorem Built.within {x : Expr} (built : e.Built) (inside : Relation.ReflTransGen PartIn x e) :
    x.Built ∨ ∃ v type, x = .value v type := by
  induction inside using Relation.ReflTransGen.head_induction_on with
  | refl => exact .inl built
  | head part _ ih =>
    rcases ih with built | ⟨v, type, rfl⟩
    · exact built.part part
    · cases part

theorem Built.call (built : e.Built) (inside : Relation.ReflTransGen PartIn (.call c) e) :
    (call c).Built := by
  rcases built.within inside with found | ⟨_, _, same⟩
  · exact found
  · cases same

theorem Connects.built (connects : Connects e operand) (built : e.Built) : operand.Built := by
  obtain ⟨c, p, inside, connective, member⟩ := connects
  obtain ⟨conditions, joins⟩ := connective.joins
  have joined := CallOf.joinsOf_of_joins joins
  obtain ⟨_, declares, _⟩ := joined.declared
  cases built.call inside with
  | list joins items =>
    obtain ⟨p, _, type, args, sealed⟩ := (CallOf.joinsOf_of_joins joins).declared
    rw [args] at member
    obtain ⟨e, present, same⟩ := List.mem_map.mp member
    cases same
    exact (items e present).expecting sealed
  | expansion called _ _ =>
    rw [Expand.expandWith_eq] at called
    cases called
    exact absurd rfl declares.bare
  | function applies _ _ =>
    obtain ⟨s, writes, applied⟩ := CallOf.writes_of_applies applies
    obtain ⟨_, rfl, _⟩ := Signature.given_of_apply applied
    exact absurd (Signature.fills_of_writes writes) declares.unfilled

theorem built_toExpr {cursor : Cursor} {name : String} (anchored : cursor.root.context = some name)
    (filled : name ≠ "") (named : ∀ step ∈ cursor.path, step.name ≠ "") : cursor.toExpr.Built := by
  have walked (steps : List PathStep) (named : ∀ step ∈ steps, step.name ≠ "") (start : Expr)
      (built : start.Built) :
      (steps.foldl (fun parent step => .member (some parent) step.name step.type) start).Built := by
    induction steps generalizing start with
    | nil => exact built
    | cons step steps ih =>
      apply ih fun later member => named later (List.mem_cons_of_mem _ member)
      exact .property (named step List.mem_cons_self) fun path same => Option.some.inj same ▸ built
  exact walked _ named _ (.anchor anchored filled)

/-- In the end it is always a list that holds nothing. -/
theorem Hollow.empty_list (hollow : e.Hollow schema) :
    ∃ c, Relation.ReflTransGen PartIn (.call c) e ∧ CallOf.Joins [] c := by
  induction hollow with
  | @nothing c joins => exact ⟨c, .refl, joins⟩
  | @single e c joins _ hollow ih =>
    obtain ⟨inner, inside, nothing⟩ := ih
    obtain ⟨p, _, type, args, _⟩ := (CallOf.joinsOf_of_joins joins).declared
    rw [List.map_singleton, hollow.expecting type] at args
    have part : PartIn e (.call c) := @PartIn.arg c (e, p) (args ▸ List.mem_cons_self)
    exact ⟨inner, inside.tail part, nothing⟩
  | @expansion target options c called _ _ ih =>
    obtain ⟨inner, inside, nothing⟩ := ih
    rw [Expand.expandWith_eq] at called
    cases called
    have part : PartIn target (.call (Expand.call target options)) :=
      @PartIn.arg _ (target, Expand.targetParameter) List.mem_cons_self
    exact ⟨inner, inside.tail part, nothing⟩
  | inContext _ ih =>
    obtain ⟨inner, inside, nothing⟩ := ih
    exact ⟨inner, inside.tail .inContext, nothing⟩

theorem not_hollow_of_lists
    (lists : ∀ c, Relation.ReflTransGen PartIn (.call c) e → ¬CallOf.Joins [] c) :
    ¬e.Hollow schema ∧ ∀ operand, e.Connects operand → ¬operand.Hollow schema := by
  constructor
  · intro hollow
    obtain ⟨c, inside, nothing⟩ := hollow.empty_list
    exact lists c inside nothing
  · rintro operand ⟨c, p, within, _, member⟩ hollow
    obtain ⟨inner, inside, nothing⟩ := hollow.empty_list
    have part : PartIn operand (.call c) := @PartIn.arg c (operand, p) member
    exact lists inner ((inside.tail part).trans within) nothing

end Expr

namespace Renderer

variable {renderer : Renderer} {scope : Scope} {rendering : Rendering} {e : Expr}

theorem silent_inContext {context : String} :
    renderer.Silent scope (.inContext e context) ↔
      renderer.Silent (scope.inContext context) e := by
  rw [Silent, Silent, evaluate_inContext]

theorem silent_of_hollow (hollow : e.Hollow renderer.schema) (scope : Scope) :
    renderer.Silent scope e := by
  induction hollow generalizing scope with
  | nothing joins =>
    have joined := CallOf.joinsOf_of_joins joins
    obtain ⟨p, _, type, args, _⟩ := joined.declared
    exact (silent_joinsOf joined).mpr (.inl args)
  | @single e c joins bare hollow ih =>
    have joined := CallOf.joinsOf_of_joins joins
    obtain ⟨p, _, type, args, _⟩ := joined.declared
    rw [List.map_singleton, hollow.expecting type] at args
    exact (silent_joinsOf joined).mpr (.inr ⟨(e, p), args, bare, ih scope.atTop⟩)
  | expansion called asks _ ih =>
    rw [Expand.expandWith_eq] at called
    cases called
    exact silent_expansion.mpr ⟨ih scope.atTop, asks⟩
  | inContext _ ih => exact silent_inContext.mpr (ih _)

theorem text_of_property {parent : Option Expr} {name : String} {result : Result}
    (evaluated : (renderer.evaluate (.property parent name result) scope).outcome = .ok rendering) :
    ∃ before, rendering.text = some (before ++ name) := by
  cases result with
  | undecided overloads =>
    rw [evaluate_undecided] at evaluated
    cases evaluated
  | type type =>
    cases parent with
    | none =>
      have bare := evaluate_bare_member renderer name type scope
      rw [Expr.member] at bare
      rw [bare] at evaluated
      cases evaluated
      exact ⟨"", by rw [String.empty_append]; rfl⟩
    | some parent =>
      have member := evaluate_member renderer parent name type scope
      rw [Expr.member] at member
      rw [member] at evaluated
      obtain ⟨path, _, same⟩ := Traced.outcome_bind_eq_ok.mp evaluated
      cases same
      cases path.text with
      | none => exact ⟨"", by rw [String.empty_append]⟩
      | some before => exact ⟨before ++ "/", rfl⟩

theorem anchor_written {symbol : RootSymbol} {name : String} (named : symbol.context = some name)
    (top : scope.top = true) : anchor symbol scope = ⟨some symbol, some name⟩ := by
  simp [anchor, top, named]

theorem text_of_built (built : e.Built) (top : scope.top = true)
    (evaluated : (renderer.evaluate e scope).outcome = .ok rendering) :
    ∃ text, rendering.text = some text := by
  induction built generalizing scope rendering with
  | anchor named _ =>
    rw [evaluate_root, anchor_written named top] at evaluated
    cases evaluated
    exact ⟨_, rfl⟩
  | property =>
    obtain ⟨before, written⟩ := text_of_property evaluated
    exact ⟨_, written⟩
  | constant =>
    rw [evaluate_value] at evaluated
    obtain ⟨text, _, same⟩ := Traced.outcome_bind_eq_ok.mp evaluated
    cases same
    exact ⟨text, rfl⟩
  | typeName =>
    rw [Expr.raw, Expr.typedConstant, evaluate_value] at evaluated
    obtain ⟨text, _, same⟩ := Traced.outcome_bind_eq_ok.mp evaluated
    cases same
    exact ⟨text, rfl⟩
  | aliased =>
    rw [evaluate_aliased] at evaluated
    cases evaluated
    exact ⟨_, rfl⟩
  | @inContext e context _ ih =>
    rw [evaluate_inContext] at evaluated
    exact @ih (scope.inContext context) rendering top evaluated
  | @named e symbol name known _ ih =>
    rw [evaluate_named] at evaluated
    obtain ⟨inner, inside, same⟩ := Traced.outcome_bind_eq_ok.mp evaluated
    cases same
    obtain ⟨text, written⟩ := ih top inside
    exact ⟨name ++ "=" ++ text, by simp only [written, namedText, known]⟩
  | condition =>
    rw [evaluate_assembled] at evaluated
    obtain ⟨renderings, _, same⟩ := Traced.outcome_bind_eq_ok.mp evaluated
    cases same
    exact ⟨_, rfl⟩
  | format | result | count | clauses =>
    rw [evaluate_directive] at evaluated
    cases evaluated
  | list | expansion | function => exact text_of_topCall rfl evaluated

theorem not_silent_constant {v : Value} {type : Option TypeRef}
    (standard : renderer.serializer = Literal.serialize) (spelled : ∀ text, v ≠ .raw text)
    (sealed : ∀ given, type = some given → given.innermost.isRaw = false) :
    ¬renderer.Silent scope (.value v type) := by
  rintro ⟨rendering, evaluated, empty⟩
  rw [evaluate_value, standard] at evaluated
  obtain ⟨text, literal, same⟩ := Traced.outcome_bind_eq_ok.mp evaluated
  cases same
  refine Literal.serialize_ne_empty spelled (fun typed => ?_) literal empty
  cases type with
  | none => exact Literal.isRaw_defaultType typed
  | some given => exact sealed given rfl

theorem not_silent_anchor {symbol : RootSymbol} {name : String}
    (named : symbol.context = some name) (filled : name ≠ "") (top : scope.top = true) :
    ¬renderer.Silent scope (.root symbol) := by
  rintro ⟨rendering, evaluated, empty⟩
  rw [evaluate_root, anchor_written named top] at evaluated
  cases evaluated
  exact filled empty

theorem not_silent_property {parent : Option Expr} {name : String} {result : Result}
    (filled : name ≠ "") : ¬renderer.Silent scope (.property parent name result) := by
  rintro ⟨rendering, evaluated, empty⟩
  obtain ⟨before, written⟩ := text_of_property evaluated
  rw [Rendering.textOrEmpty, written, Option.getD_some, String.append_eq_empty_iff] at empty
  exact filled empty.2

theorem not_silent_typeName (standard : renderer.serializer = Literal.serialize) (type : TypeRef) :
    ¬renderer.Silent scope (.raw type.text) := by
  rintro ⟨rendering, evaluated, empty⟩
  rw [Expr.raw, Expr.typedConstant, evaluate_value, standard] at evaluated
  cases evaluated
  exact type.text_ne_empty empty

theorem not_silent_aliased {param : Alias} {type : Option TypeRef} (filled : param.name ≠ "") :
    ¬renderer.Silent scope (.aliased param type) := by
  rintro ⟨rendering, evaluated, empty⟩
  rw [evaluate_aliased] at evaluated
  cases evaluated
  exact filled empty

theorem not_silent_named {symbol : RootSymbol} {name : String} (known : symbol.context = some name)
    (built : e.Built) (top : scope.top = true) : ¬renderer.Silent scope (.named e symbol) := by
  rintro ⟨rendering, evaluated, empty⟩
  rw [evaluate_named] at evaluated
  obtain ⟨inner, inside, same⟩ := Traced.outcome_bind_eq_ok.mp evaluated
  cases same
  obtain ⟨text, written⟩ := text_of_built built top inside
  simp [Rendering.textOrEmpty, namedText, written, known] at empty

theorem not_silent_condition {variableName : String} {result : Result} :
    ¬renderer.Silent scope (.assembled [.text (variableName ++ ":"), .expr e] result) := by
  rintro ⟨rendering, evaluated, empty⟩
  rw [evaluate_assembled] at evaluated
  obtain ⟨renderings, each, same⟩ := Traced.outcome_bind_eq_ok.mp evaluated
  cases same
  obtain ⟨_, _, opened, _, rfl⟩ := List.forall₂_cons_left_iff.mp (Traced.mapM_eq_ok.mp each)
  cases opened
  simp [Rendering.textOrEmpty, Rendering.ofText, String.join_cons] at empty

theorem not_silent_directive {directive : Directive} :
    ¬renderer.Silent scope (.directive directive) := by
  rintro ⟨rendering, evaluated, _⟩
  rw [evaluate_directive] at evaluated
  cases evaluated

theorem not_silent_function {receiver : Option Expr} {args : List Expr} {c : Call}
    (applies : CallOf.Applies receiver args c) (given : ∀ e ∈ args, e.Built) :
    ¬renderer.Silent scope (.call c) := by
  rintro ⟨rendering, evaluated, empty⟩
  obtain ⟨s, writes, applied⟩ := CallOf.writes_of_applies applies
  obtain ⟨_, rfl, arguments⟩ := Signature.given_of_apply applied
  -- Typing an argument does not make it one of the directives that only text by hand takes.
  have composed : ∀ paths, ∀ argument ∈ c.args, argument.1 ≠ .directive (.rawPaths paths) := by
    intro paths argument member same
    obtain ⟨e, present, type, typed⟩ := arguments argument member
    rcases Expr.expecting_cases e type with kept | ⟨v, rfl⟩
    · have held : e = .directive (.rawPaths paths) := kept.symm.trans (typed.symm.trans same)
      exact Expr.not_built_rawPaths paths (held ▸ given e present)
    · rw [same] at typed
      cases typed
  have fills := Signature.fills_of_writes writes
  exact call_ne_empty fills (CallOf.operandCount_le applied) composed evaluated empty

/-- Rendered at the top, only what is hollow is rendered as nothing. -/
theorem hollow_of_silent (standard : renderer.serializer = Literal.serialize) (built : e.Built)
    (top : scope.top = true) (silent : renderer.Silent scope e) : e.Hollow renderer.schema := by
  -- An operand is rendered in a scope of its own, but at the top again.
  induction built generalizing scope with
  | anchor named filled => exact absurd silent (not_silent_anchor named filled top)
  | property filled => exact absurd silent (not_silent_property filled)
  | constant spelled sealed => exact absurd silent (not_silent_constant standard spelled sealed)
  | typeName type => exact absurd silent (not_silent_typeName standard type)
  | aliased filled => exact absurd silent (not_silent_aliased filled)
  | @inContext e context _ ih =>
    exact .inContext (@ih (scope.inContext context) top (silent_inContext.mp silent))
  | named known built => exact absurd silent (not_silent_named known built top)
  | condition => exact absurd silent not_silent_condition
  | format | result | count | clauses => exact absurd silent not_silent_directive
  | @list operands c joins items ih =>
    have joined := CallOf.joinsOf_of_joins joins
    obtain ⟨p, _, type, args, sealed⟩ := joined.declared
    rcases (silent_joinsOf joined).mp silent with nothing | ⟨argument, single, bare, silent⟩
    · rw [args, List.map_eq_nil_iff] at nothing
      exact .nothing (nothing ▸ joins)
    · rw [args] at single
      obtain ⟨e, rfl, rfl⟩ := List.map_eq_singleton_iff.mp single
      rcases Expr.expecting_cases e type with same | ⟨v, rfl⟩
      · dsimp only at bare silent
        rw [same] at bare silent
        exact .single joins bare (ih e List.mem_cons_self rfl silent)
      · cases items _ List.mem_cons_self with
        | constant spelled _ => exact absurd silent (not_silent_constant standard spelled sealed)
  | expansion called _ _ ih =>
    rw [Expand.expandWith_eq] at called
    cases called
    obtain ⟨silent, asks⟩ := silent_expansion.mp silent
    exact .expansion (Expand.expandWith_eq _ _) asks (ih rfl silent)
  | function applies _ given => exact absurd silent (not_silent_function applies given)

end Renderer

namespace Expr

variable {schema : Schema} {e : Expr}

theorem Hollow.topCall (hollow : e.Hollow schema) : ∃ c, e.topCall? = some c ∧
    Clause.customReceiver? c = none ∧ Clause.customName? c = none ∧
      c.signature.option ∈ [QueryOption.filter, .select, .expand, .orderBy] := by
  induction hollow with
  | @nothing c joins =>
    have joined := CallOf.joinsOf_of_joins joins
    obtain ⟨p, declares, type, args, _⟩ := joined.declared
    refine ⟨c, rfl, ?receiver, ?name, declares.clausal⟩
    case receiver => rw [Clause.customReceiver?, joined.receiver]
    case name =>
      rw [Clause.customName?, args]
      rfl
  | @single e c joins _ hollow _ =>
    have joined := CallOf.joinsOf_of_joins joins
    obtain ⟨p, declares, type, args, _⟩ := joined.declared
    refine ⟨c, rfl, ?receiver, ?name, declares.clausal⟩
    case receiver => rw [Clause.customReceiver?, joined.receiver]
    case name =>
      rw [Clause.customName?, args, List.map_singleton, hollow.expecting type]
      cases hollow <;> rfl
  | @expansion target options c called _ hollow _ =>
    rw [Expand.expandWith_eq] at called
    cases called
    refine ⟨_, rfl, rfl, ?_, List.mem_of_elem_eq_true rfl⟩
    rw [Clause.customName?, List.findSome?_eq_none_iff]
    intro argument member
    rcases List.mem_cons.mp member with rfl | member
    · cases hollow <;> rfl
    · obtain ⟨option, _, rfl⟩ := List.mem_map.mp member
      cases option <;> rfl
  | inContext _ ih => exact ih

theorem Hollow.key_ne_count (hollow : e.Hollow schema) {key : String}
    (keyed : (Clause.mk e).key = .ok key) : key ≠ "$count" := by
  obtain ⟨c, called, receiver, name, option⟩ := hollow.topCall
  obtain ⟨_, reached, keyed⟩ := bind_eq_ok.mp keyed
  cases (Clause.call_eq_ok.mpr called).symm.trans reached
  rw [receiver, name, Option.none_or, Option.none_or] at keyed
  simp only [List.mem_cons, List.not_mem_nil, or_false] at option
  rcases option with same | same | same | same
  all_goals
    rw [same] at keyed
    cases keyed
    decide

end Expr

namespace Text

theorem replaceAll_eq_empty_iff {text pattern replacement : String} (filled : replacement ≠ "") :
    replaceAll text pattern replacement = "" ↔ text = "" := by
  have written : replacement.toList ≠ [] := by simpa using filled
  rw [replaceAll, String.ofList_eq_empty_iff, ← String.toList_eq_nil_iff]
  cases text.toList with
  | nil => simp [replaceFrom]
  | cons char rest =>
    rw [replaceFrom]
    split <;> simp [written]

end Text

theorem Draft.clauseText_eq_empty_iff {key text : String} :
    clauseText key text = "" ↔ text = "" ∧ key ≠ "$count" := by
  unfold clauseText
  split
  · rename_i expands
    rw [Text.replaceAll_eq_empty_iff (by decide), Text.replaceAll_eq_empty_iff (by decide)]
    simp [expands]
  · split
    · rename_i counts
      simp [counts]
    · rename_i other
      exact ⟨fun empty => ⟨empty, fun counts => other ⟨counts, empty⟩⟩, And.left⟩

namespace Library

def catalog : EntitySet := .ofType "Main" "Books" book

def searched (clause : Clause) : ResourceParts := ⟨[.entitySet catalog] ++ [.query [clause]]⟩

def alternatives : Parameter := (Builtin.typed "conditions" .boolean).asRepeated

def titledOneOf (texts : List String) : Call where
  receiver := none
  args := texts.map fun text => (.call (titled text), alternatives)
  signature := .declared "or" .filter [alternatives] (.type .boolean) (.between "or")
  bindings := .empty

theorem some_dune_emma : Filter.some [.call (titled "Dune"), .call (titled "Emma")] =
    .ok (.call (titledOneOf ["Dune", "Emma"])) := rfl

theorem some_nothing : Filter.some [] = .ok (.call (titledOneOf [])) := rfl

theorem expr_built_titled (text : String) : (Expr.call (titled text)).Built := by
  have path : title.Built :=
    @Expr.built_toExpr (found.step ⟨"Title", .property, .string⟩ .primitive) itContext rfl
      (by decide) (List.forall_mem_singleton.mpr (by decide))
  apply Expr.Built.function (.builtin List.mem_cons_self (by decide) (compare_titled text)) nofun
  intro e member
  simp only [List.mem_cons, List.not_mem_nil, or_false, Filter.formatArgs, List.append_nil]
    at member
  rcases member with rfl | rfl
  · exact path
  · exact .constant nofun nofun

theorem lists_titledOneOf {texts : List String} (filled : texts ≠ []) (c : Call)
    (inside : Relation.ReflTransGen Expr.PartIn (.call c) (.call (titledOneOf texts))) :
    ¬CallOf.Joins [] c := by
  intro nothing
  rcases Relation.ReflTransGen.cases_tail inside with same | ⟨part, inside, within⟩
  · cases same
    obtain ⟨p, _, type, args, _⟩ := (CallOf.joinsOf_of_joins nothing).declared
    exact filled (List.map_eq_nil_iff.mp args)
  · have part_titled : ∃ text, part = .call (titled text) := by
      cases within with
      | receiver present => cases present
      | arg member =>
        obtain ⟨text, _, rfl⟩ := List.mem_map.mp member
        exact ⟨text, rfl⟩
    obtain ⟨text, rfl⟩ := part_titled
    have compares : c.signature.name = "eq" := calls_titled ⟨c, inside, rfl⟩
    exact absurd (compares ▸ nothing.name) (by decide)

theorem render_dune_emma : mapping.renderer.render (.call (titledOneOf ["Dune", "Emma"])) =
    pure "(Title eq 'Dune') or (Title eq 'Emma')" := by
  have built : FilterTree.Built (.call "or" [titledTree "Dune", titledTree "Emma"])
      (.call (titledOneOf ["Dune", "Emma"])) :=
    .call (.some (by decide) some_dune_emma)
      (.cons (built_titled "Dune") (.cons (built_titled "Emma") .nil))
  have text : FilterTree.text (.call "or" [titledTree "Dune", titledTree "Emma"]) =
      "(Title eq 'Dune') or (Title eq 'Emma')" := by decide
  obtain ⟨root, evaluated⟩ := FilterTree.evaluate_built schema built .it rfl
  have written : mapping.renderer.evaluate _ .it = _ := evaluated
  rw [Renderer.render, written, text]
  rfl

theorem render_nothing : mapping.renderer.render (.call (titledOneOf [])) = pure "" := by
  have plain : ∀ argument ∈ (titledOneOf []).args, argument.2.directiveKind? = none :=
    fun _ member => absurd member List.not_mem_nil
  rw [Renderer.render, Renderer.evaluate_call (CallOf.reduce_of_plain plain)]
  rfl

end Library

namespace Mapping

/-- The value of a built clause is empty exactly if the clause is hollow, and so is the text of an
operand of `and` or `or` in it, wherever that is rendered. -/
theorem empty_iff_hollow {mapping : Mapping} {root : String} {resource : ResourceParts}
    {target : Target} {clause : Clause} (standard : mapping.serializer = Literal.serialize)
    (accepted : (mapping.map root resource).outcome = .ok target)
    (member : clause ∈ resource.clauses) (built : clause.expr.Built) :
    ∃ key value, clause.key = .ok key ∧
      (∀ other, (key, other) ∈ target.address.query ↔ other = value) ∧
      (value = "" ↔ clause.expr.Hollow mapping.schema) ∧
      ∀ operand scope, clause.expr.Connects operand → scope.top = true →
        (mapping.renderer.Silent scope operand ↔ operand.Hollow mapping.schema) := by
  obtain ⟨key, text, keyed, rendered, single⟩ := pair_of_clause accepted member
  refine ⟨key, _, keyed, single, ?clause, ?operands⟩
  case clause =>
    rw [Draft.clauseText_eq_empty_iff]
    constructor
    · rintro ⟨rfl, _⟩
      exact Renderer.hollow_of_silent standard built rfl (Renderer.render_eq_ok.mp rendered)
    · intro hollow
      refine ⟨?_, hollow.key_ne_count keyed⟩
      have silent : mapping.renderer.Silent .it clause.expr := Renderer.silent_of_hollow hollow .it
      have nothing := Renderer.render_eq_ok.mpr silent
      exact Except.ok.inj (rendered.symm.trans nothing)
  case operands =>
    intro operand scope connects top
    constructor
    · exact Renderer.hollow_of_silent standard (connects.built built) top
    · intro hollow
      exact Renderer.silent_of_hollow hollow scope

theorem empty_iff_hollow_dune_emma : ∃ e target value,
    Filter.some [.call (Library.titled "Dune"), .call (Library.titled "Emma")] = .ok e ∧
    (Library.mapping.map "http://svc" (Library.searched ⟨e⟩)).outcome = .ok target ∧
    (∀ other, ("$filter", other) ∈ target.address.query ↔ other = value) ∧ value ≠ "" ∧
    ∀ operand scope, e.Connects operand → scope.top = true →
      ¬Library.mapping.renderer.Silent scope operand := by
  have built : (Expr.call (Library.titledOneOf ["Dune", "Emma"])).Built := by
    refine .list (.some Library.some_dune_emma) fun e member => ?_
    simp only [List.mem_cons, List.not_mem_nil, or_false] at member
    rcases member with rfl | rfl
    · exact Library.expr_built_titled "Dune"
    · exact Library.expr_built_titled "Emma"
  let clause : Clause := ⟨.call (Library.titledOneOf ["Dune", "Emma"])⟩
  have filters : clause.key = .ok "$filter" := rfl
  have accepted : (Library.mapping.map "http://svc" (Library.searched clause)).outcome = .ok _ :=
    map_clause filters Library.render_dune_emma "http://svc"
  obtain ⟨written, operands⟩ :
      ¬clause.expr.Hollow Library.schema ∧
        ∀ operand, clause.expr.Connects operand → ¬operand.Hollow Library.schema :=
    Expr.not_hollow_of_lists (Library.lists_titledOneOf (List.cons_ne_nil _ _))
  obtain ⟨key, value, keyed, single, empty_iff, each⟩ :=
    empty_iff_hollow rfl accepted List.mem_cons_self built
  cases filters.symm.trans keyed
  refine ⟨_, _, value, Library.some_dune_emma, accepted, single, ?_, ?_⟩
  · exact fun empty => written (empty_iff.mp empty)
  · intro operand scope connects top silent
    exact operands operand connects ((each operand scope connects top).mp silent)

/-- Any of no conditions is accepted as a filter, and as an empty one. -/
theorem nothing_filtered : ∃ e target, Filter.some [] = .ok e ∧ e.Built ∧
    (Library.mapping.map "http://svc" (Library.searched ⟨e⟩)).outcome = .ok target ∧
    ("$filter", "") ∈ target.address.query := by
  let clause : Clause := ⟨.call (Library.titledOneOf [])⟩
  have filters : clause.key = .ok "$filter" := rfl
  have accepted : (Library.mapping.map "http://svc" (Library.searched clause)).outcome = .ok _ :=
    map_clause filters Library.render_nothing "http://svc"
  have built : (Expr.call (Library.titledOneOf [])).Built :=
    .list (.some Library.some_nothing) (List.forall_mem_nil _)
  exact ⟨_, _, Library.some_nothing, built, accepted, List.mem_cons_self⟩

end Mapping
end ODataRequest
