import ODataRequest.Clause.Filter
import ODataRequest.Proofs.Evaluation
import ODataRequest.Proofs.Pairing
import Mathlib.Data.List.Forall2
namespace ODataRequest

inductive FilterTree
  | path (names : List String)
  | string (text : String)
  | int (n : Nat)
  | call (name : String) (operands : List FilterTree)

namespace FilterTree

def comparisons : List String := ["eq", "ne", "gt", "ge", "lt", "le"]

def arithmetic : List String := ["add", "sub", "mul", "div", "divby", "mod"]

def operators : List String := comparisons ++ "has" :: arithmetic ++ ["and", "or"]

def roundings : List String := ["ceiling", "floor", "round"]

def unaryFunctions : List String :=
  ["length", "tolower", "toupper", "trim", "year", "month", "day", "hour", "minute", "second"]

def binaryFunctions : List String :=
  ["contains", "startswith", "endswith", "indexof", "concat"]

def functions : List String := roundings ++ unaryFunctions ++ "substring" :: binaryFunctions

def layout (name : String) : Layout :=
  if name ∈ operators then .between name
  else if name = "not" then .before "not "
  else if name = "negate" then .before "-"
  else .function name

def isInfix : FilterTree → Bool
  | call name _ => name ∈ operators
  | _ => false

def enclosed : Layout → FilterTree → Bool
  | .between _, t | .before _, t | .after _, t => t.isInfix
  | _, _ => false

mutual

def text : FilterTree → String
  | path names => Text.joined "/" names
  | string text => Text.quoted text
  | int n => numeral n
  | call name operands => Renderer.callText (layout name) none (operandTexts (layout name) operands)

def operandTexts (layout : Layout) : List FilterTree → List String
  | [] => []
  | t :: rest =>
    (if enclosed layout t then "(" ++ text t ++ ")" else text t) :: operandTexts layout rest

end

theorem induction {motive : FilterTree → Prop} (path : ∀ names, motive (.path names))
    (string : ∀ text, motive (.string text)) (int : ∀ n, motive (.int n))
    (call : ∀ name operands, (∀ t ∈ operands, motive t) → motive (.call name operands)) :
    (t : FilterTree) → motive t
  | .path names => path names
  | .string text => string text
  | .int n => int n
  | .call name operands => call name operands fun t _ => induction path string int call t
termination_by t => sizeOf t
decreasing_by
  have smaller := List.sizeOf_lt_of_mem ‹t ∈ operands›
  simp only [FilterTree.call.sizeOf_spec]
  omega

/-- An ASCII identifier. Of all operator words only `not` can stand before an operand. -/
structure IsSegment (name : String) : Prop where
  letters : ∀ char ∈ name.toList, char.isAlphanum = true ∨ char = '_'
  first : ∃ char, name.toList.head? = some char ∧ char.isDigit = false
  free : name ≠ "not"

inductive IsPath : List String → Expr → Prop
  | first {symbol : RootSymbol} {name : String} {type : TypeRef} :
      symbol.context = some itContext → IsSegment name →
      IsPath [name] (.member (some (.root symbol)) name type)
  | next {names : List String} {e : Expr} {name : String} {type : TypeRef} :
      IsPath names e → IsSegment name → IsPath (names ++ [name]) (.member (some e) name type)

/-- What the functions of a filter make of expressions, under the names of the operators. -/
inductive Applies : String → List Expr → Expr → Prop
  | compare {name : String} {left right e : Expr} : name ∈ comparisons →
      Filter.compare name left right none = .ok e → Applies name [left, right] e
  | has {left flag e : Expr} : Filter.has left flag = .ok e → Applies "has" [left, flag] e
  | arithmetic {name : String} {left right e : Expr} : name ∈ arithmetic →
      Filter.arithmetic name left right none = .ok e → Applies name [left, right] e
  | all {conditions : List Expr} {e : Expr} : 2 ≤ conditions.length →
      Filter.all conditions = .ok e → Applies "and" conditions e
  | some {conditions : List Expr} {e : Expr} : 2 ≤ conditions.length →
      Filter.some conditions = .ok e → Applies "or" conditions e
  | not {condition e : Expr} : Filter.not condition = .ok e → Applies "not" [condition] e
  | negate {operand e : Expr} : Filter.numeric "negate" [operand] none = .ok e →
      Applies "negate" [operand] e
  | rounding {name : String} {operand e : Expr} : name ∈ roundings →
      Filter.numeric name [operand] none = .ok e → Applies name [operand] e
  | unary {name : String} {operand e : Expr} : name ∈ unaryFunctions →
      Filter.call name [operand] = .ok e → Applies name [operand] e
  | binary {name : String} {left right e : Expr} : name ∈ binaryFunctions →
      Filter.call name [left, right] = .ok e → Applies name [left, right] e
  | substring {text e : Expr} {start : Nat} : Filter.substring text start none = .ok e →
      Applies "substring" [text, .constant (.int start)] e

/-- A filter built from paths, strings and non-negative integers, over its tree. The operands
are those that the call holds: constants without a type have been given one. Integers have 64
bits, but 32 where a substring starts. -/
inductive Built : FilterTree → Expr → Prop
  | path {names : List String} {e : Expr} : IsPath names e → Built (.path names) e
  | string {text : String} :
      Built (.string text) (.value (.string text) (Option.some .string))
  | int {n : Nat} {type : TypeRef} : type = .int64 ∨ type = .int32 →
      Built (.int n) (.value (.int n) (Option.some type))
  | call {name : String} {args : List Expr} {c : Call} {operands : List FilterTree} :
      Applies name args (.call c) → List.Forall₂ Built operands (c.args.map Prod.fst) →
      Built (.call name operands) (.call c)

def ordinary (p : Parameter) : Bool := !p.optional && !p.repeated && p.directiveKind?.isNone

def omissible (p : Parameter) : Bool := p.optional && !p.repeated

structure Declares (name : String) (arity : Nat) (s : Signature) : Prop where
  layout : s.layout = FilterTree.layout name
  valid : s.validate = .ok ()
  typed : ∃ type, s.result = .type type
  parameters : ∃ required optional, s.parameters = required ++ optional ∧
    required.length = arity ∧ required.all ordinary = true ∧ optional.all omissible = true

theorem declares_comparison {name : String} (member : name ∈ comparisons) :
    ∃ s, Builtin.signature .filter name = .ok s ∧ Declares name 2 s := by
  simp only [comparisons, List.mem_cons, List.not_mem_nil, or_false] at member
  rcases member with rfl | rfl | rfl | rfl | rfl | rfl
  all_goals exact ⟨_, rfl, rfl, rfl, ⟨_, rfl⟩, [_, _], [_], rfl, rfl, rfl, rfl⟩

theorem declares_has : ∃ s, Builtin.signature .filter "has" = .ok s ∧ Declares "has" 2 s :=
  ⟨_, rfl, rfl, rfl, ⟨_, rfl⟩, [_, _], [], rfl, rfl, rfl, rfl⟩

theorem declares_substring :
    ∃ s, Builtin.signature .filter "substring" = .ok s ∧ Declares "substring" 2 s :=
  ⟨_, rfl, rfl, rfl, ⟨_, rfl⟩, [_, _], [_], rfl, rfl, rfl, rfl⟩

theorem declares_not : ∃ s, Builtin.signature .filter "not" = .ok s ∧ Declares "not" 1 s :=
  ⟨_, rfl, rfl, rfl, ⟨_, rfl⟩, [_], [], rfl, rfl, rfl, rfl⟩

theorem declares_unary {name : String} (member : name ∈ unaryFunctions) :
    ∃ s, Builtin.signature .filter name = .ok s ∧ Declares name 1 s := by
  simp only [unaryFunctions, List.mem_cons, List.not_mem_nil, or_false] at member
  rcases member with rfl | rfl | rfl | rfl | rfl | rfl | rfl | rfl | rfl | rfl
  all_goals exact ⟨_, rfl, rfl, rfl, ⟨_, rfl⟩, [_], [], rfl, rfl, rfl, rfl⟩

theorem declares_binary {name : String} (member : name ∈ binaryFunctions) :
    ∃ s, Builtin.signature .filter name = .ok s ∧ Declares name 2 s := by
  simp only [binaryFunctions, List.mem_cons, List.not_mem_nil, or_false] at member
  rcases member with rfl | rfl | rfl | rfl | rfl
  all_goals exact ⟨_, rfl, rfl, rfl, ⟨_, rfl⟩, [_, _], [], rfl, rfl, rfl, rfl⟩

theorem inferResult_none (operator : String) (operands : List Expr) :
    Filter.inferResult operator operands none = .int64 ∨
      Filter.inferResult operator operands none = .double := by
  unfold Filter.inferResult
  dsimp only
  split
  · exact .inr rfl
  · split
    · exact .inl rfl
    · exact .inr rfl

theorem declares_arithmetic {name : String} (member : name ∈ arithmetic) {type : PrimitiveType}
    (inferred : type = .int64 ∨ type = .double) :
    ∃ s, Builtin.overload .filter name type = .ok s ∧ Declares name 2 s := by
  simp only [arithmetic, List.mem_cons, List.not_mem_nil, or_false] at member
  rcases inferred with rfl | rfl
  all_goals rcases member with rfl | rfl | rfl | rfl | rfl | rfl
  all_goals exact ⟨_, rfl, rfl, rfl, ⟨_, rfl⟩, [_, _], [], rfl, rfl, rfl, rfl⟩

theorem declares_rounding {name : String} (member : name = "negate" ∨ name ∈ roundings)
    {type : PrimitiveType} (inferred : type = .int64 ∨ type = .double) :
    ∃ s, Builtin.overload .filter name type = .ok s ∧ Declares name 1 s := by
  simp only [roundings, List.mem_cons, List.not_mem_nil, or_false] at member
  rcases inferred with rfl | rfl
  all_goals rcases member with rfl | rfl | rfl | rfl
  all_goals exact ⟨_, rfl, rfl, rfl, ⟨_, rfl⟩, [_], [], rfl, rfl, rfl, rfl⟩

theorem pairFrom_ordinary {required optional : List Parameter} {args : List Expr}
    (ordinary : required.all ordinary = true) (omissible : optional.all omissible = true)
    (arity : required.length = args.length) :
    Signature.pairFrom (required ++ optional) args = Option.some (args.zip required, []) := by
  have single : ∀ p ∈ required, p.repeated = false ∧ p.optional = false := by
    intro p member
    have declared := List.all_eq_true.mp ordinary p member
    simp only [FilterTree.ordinary, Bool.and_eq_true, Bool.not_eq_true'] at declared
    exact ⟨declared.1.2, declared.1.1⟩
  have omitted : ∀ p ∈ optional, p.repeated = false ∧ p.optional = true := by
    intro p member
    have declared := List.all_eq_true.mp omissible p member
    simp only [FilterTree.omissible, Bool.and_eq_true, Bool.not_eq_true'] at declared
    exact ⟨declared.2, declared.1⟩
  have walk := Signature.pairing_required single arity.symm (Signature.pairing_omitted omitted)
  simpa only [List.append_nil] using Signature.pairFrom_of_pairing walk

/-- A call of a filter function as rendering sees it. -/
structure Shape (name : String) (arity : Nat) (c : Call) : Prop where
  layout : c.signature.layout = FilterTree.layout name
  receiver : c.receiver = none
  checked : Renderer.checkCall c = .ok ()
  plain : ∀ argument ∈ c.args, argument.2.directiveKind? = none
  arity : c.args.length = arity

theorem shape_of_pairs {name : String} {s : Signature} {args : List Expr}
    {pairs : List (Expr × Parameter)} {c : Call} (layout : s.layout = FilterTree.layout name)
    (valid : s.validate = .ok ()) (typed : ∃ type, s.result = .type type)
    (paired : Signature.pairFrom s.parameters args = Option.some (pairs, []))
    (plain : ∀ pair ∈ pairs, pair.2.directiveKind? = none)
    (applied : s.apply none args = .ok (.call c)) : Shape name pairs.length c := by
  rw [Signature.apply, Signature.pair, paired] at applied
  cases applied
  constructor
  case layout => exact layout
  case receiver => rfl
  case checked =>
    rcases typed with ⟨type, typed⟩
    rw [Renderer.checkCall, valid, typed]
    rfl
  case plain =>
    intro argument member
    rcases List.mem_map.mp member with ⟨pair, present, rfl⟩
    rw [Signature.typeConstant_parameter]
    exact plain pair present
  case arity => exact List.length_map _

theorem shape_of_declares {name : String} {s : Signature} {args : List Expr} {c : Call}
    (declares : Declares name args.length s) (applied : s.apply none args = .ok (.call c)) :
    Shape name args.length c := by
  rcases declares.parameters with ⟨required, optional, parameters, arity, ordinary, omissible⟩
  have paired : Signature.pairFrom s.parameters args = Option.some (args.zip required, []) := by
    rw [parameters]
    exact pairFrom_ordinary ordinary omissible arity
  have plain : ∀ pair ∈ args.zip required, pair.2.directiveKind? = none := by
    intro pair member
    have present := List.all_eq_true.mp ordinary pair.2 (List.of_mem_zip member).2
    simp only [FilterTree.ordinary, Bool.and_eq_true, Option.isNone_iff_eq_none] at present
    exact present.2
  have length : (args.zip required).length = args.length := by
    rw [List.length_zip, arity, Nat.min_self]
  rw [← length]
  exact shape_of_pairs declares.layout declares.valid declares.typed paired plain applied

theorem shape_condition {name : String} (member : name = "and" ∨ name = "or") {args : List Expr}
    {c : Call} (applied : Filter.call name args = .ok (.call c)) : Shape name args.length c := by
  have declared : ∃ s p, Builtin.signature .filter name = .ok s ∧ s.parameters = [p] ∧
      p.repeated = true ∧ p.directiveKind? = none ∧ s.layout = FilterTree.layout name ∧
      s.validate = .ok () ∧ ∃ type, s.result = .type type := by
    rcases member with rfl | rfl
    · exact ⟨_, _, rfl, rfl, rfl, rfl, rfl, rfl, _, rfl⟩
    · exact ⟨_, _, rfl, rfl, rfl, rfl, rfl, rfl, _, rfl⟩
  rcases declared with ⟨s, p, found, parameters, repeated, operand, layout, valid, typed⟩
  have paired : Signature.pairFrom s.parameters args = Option.some (args.map (·, p), []) := by
    rw [parameters]
    exact Signature.pairFrom_of_pairing (Signature.pairing_repeated repeated operand args)
  have plain : ∀ pair ∈ args.map (·, p), pair.2.directiveKind? = none := by
    intro pair member
    rcases List.mem_map.mp member with ⟨e, _, rfl⟩
    exact operand
  rw [Filter.call, callBuiltin, found] at applied
  have shape := shape_of_pairs layout valid typed paired plain applied
  rw [List.length_map] at shape
  exact shape

theorem shape_call {name : String} {args : List Expr} {c : Call}
    (declared : ∃ s, Builtin.signature .filter name = .ok s ∧ Declares name args.length s)
    (applied : Filter.call name args = .ok (.call c)) : Shape name args.length c := by
  rcases declared with ⟨s, found, declares⟩
  rw [Filter.call, callBuiltin, found] at applied
  exact shape_of_declares declares applied

theorem shape_numeric {name : String} {args : List Expr} {c : Call}
    (declared : ∀ {type}, type = .int64 ∨ type = .double →
      ∃ s, Builtin.overload .filter name type = .ok s ∧ Declares name args.length s)
    (applied : Filter.numeric name args none = .ok (.call c)) : Shape name args.length c := by
  rcases declared (inferResult_none name args) with ⟨s, found, declares⟩
  rw [Filter.numeric, found] at applied
  exact shape_of_declares declares applied

theorem shape_of_applies {name : String} {args : List Expr} {c : Call}
    (applies : Applies name args (.call c)) : Shape name args.length c := by
  cases applies with
  | compare member applied => exact shape_call (declares_comparison member) applied
  | has applied => exact shape_call declares_has applied
  | arithmetic member applied => exact shape_numeric (declares_arithmetic member) applied
  | all several applied => exact shape_condition (.inl rfl) applied
  | some several applied => exact shape_condition (.inr rfl) applied
  | not applied => exact shape_call declares_not applied
  | negate applied => exact shape_numeric (declares_rounding (.inl rfl)) applied
  | rounding member applied => exact shape_numeric (declares_rounding (.inr member)) applied
  | unary member applied => exact shape_call (declares_unary member) applied
  | binary member applied => exact shape_call (declares_binary member) applied
  | substring applied => exact shape_call declares_substring applied

theorem isInfix_iff {name : String} {operands : List FilterTree} :
    (call name operands).isInfix = true ↔ name ∈ operators := by
  rw [isInfix, decide_eq_true_eq]

theorem layout_between {name : String} (member : name ∈ operators) : layout name = .between name :=
  if_pos member

theorem layout_not_between {name : String} (other : name ∉ operators) :
    layout name = .before "not " ∨ layout name = .before "-" ∨ layout name = .function name := by
  unfold layout
  rw [if_neg other]
  by_cases negation : name = "not"
  · rw [if_pos negation]
    exact .inl rfl
  · rw [if_neg negation]
    by_cases sign : name = "negate"
    · rw [if_pos sign]
      exact .inr (.inl rfl)
    · rw [if_neg sign]
      exact .inr (.inr rfl)

theorem needsParentheses_call {name : String} {operands : List FilterTree} {c : Call}
    (same : c.signature.layout = layout name) (outer : Layout) :
    Renderer.needsParentheses outer (.call c) = enclosed outer (call name operands) := by
  by_cases member : name ∈ operators
  · have infixed : (call name operands).isInfix = true := isInfix_iff.mpr member
    rw [layout_between member] at same
    cases outer <;> simp [Renderer.needsParentheses, enclosed, infixed, same]
  · have other : (call name operands).isInfix = false := by
      rw [← Bool.not_eq_true, isInfix_iff]
      exact member
    rcases layout_not_between member with shape | shape | shape
    all_goals
      rw [shape] at same
      cases outer <;> simp [Renderer.needsParentheses, enclosed, other, same]

theorem needsParentheses_built {t : FilterTree} {e : Expr} (built : Built t e) (outer : Layout) :
    Renderer.needsParentheses outer e = enclosed outer t := by
  cases built with
  | path walked => cases walked <;> cases outer <;> rfl
  | string => cases outer <;> rfl
  | int => cases outer <;> rfl
  | call applies _ => exact needsParentheses_call (shape_of_applies applies).layout outer

theorem isDirective_built {t : FilterTree} {e : Expr} (built : Built t e) :
    Renderer.isDirective e = false := by
  cases built with
  | path walked => cases walked <;> rfl
  | string => rfl
  | int => rfl
  | call => rfl

section Rendering

variable (schema : Schema)

theorem evaluate_isPath {names : List String} {e : Expr} (walked : IsPath names e) (scope : Scope)
    (inside : scope.context = itContext) :
    ∃ root, (Renderer.standard schema).evaluate e scope =
      pure ⟨root, Option.some (Text.joined "/" names)⟩ := by
  induction walked generalizing scope with
  | @first symbol name type anchored _ =>
    refine ⟨Option.some symbol, ?_⟩
    have silent : Renderer.anchor symbol scope.nested = ⟨Option.some symbol, none⟩ := by
      simp [Renderer.anchor, Scope.nested, anchored, inside]
    rw [Renderer.evaluate_member, Renderer.evaluate_root, silent, pure_bind]
    rfl
  | @next names e name type walked _ ih =>
    rcases ih scope.nested inside with ⟨root, path⟩
    refine ⟨root, ?_⟩
    have filled : names ≠ [] := by cases walked <;> simp
    rw [Renderer.evaluate_member, path, pure_bind]
    simp [Text.joined, String.intercalate_append_of_ne_nil filled]

theorem operand_built {t : FilterTree} {argument : Expr × Parameter} {c : Call} {scope : Scope}
    {root : Option RootSymbol} (built : Built t argument.1)
    (plain : argument.2.directiveKind? = none)
    (written : (Renderer.standard schema).evaluate argument.1 scope.atTop =
      pure ⟨root, Option.some t.text⟩) :
    (Renderer.standard schema).operand c scope argument = pure (root,
      if enclosed c.signature.layout t then "(" ++ t.text ++ ")" else t.text) := by
  rw [Renderer.operand, plain, isDirective_built built, written, pure_bind]
  simp [Renderer.operandText, needsParentheses_built built, Rendering.textOrEmpty]

theorem operands_built {operands : List FilterTree} {args : List (Expr × Parameter)} {c : Call}
    (scope : Scope) (built : List.Forall₂ Built operands (args.map Prod.fst))
    (plain : ∀ argument ∈ args, argument.2.directiveKind? = none)
    (written : ∀ t ∈ operands, ∀ e, Built t e → ∃ root,
      (Renderer.standard schema).evaluate e scope.atTop = pure ⟨root, Option.some t.text⟩) :
    ∃ results, args.mapM ((Renderer.standard schema).operand c scope) = pure results ∧
      results.map Prod.snd = operandTexts c.signature.layout operands := by
  induction args generalizing operands with
  | nil =>
    cases built
    exact ⟨[], rfl, rfl⟩
  | cons argument rest ih =>
    cases built with
    | @cons t _ others _ head_built rest_built =>
      rcases written t List.mem_cons_self _ head_built with ⟨root, head_written⟩
      have head := operand_built schema (c := c) head_built (plain argument List.mem_cons_self)
        head_written
      rcases ih rest_built (fun other member => plain other (List.mem_cons_of_mem _ member))
        (fun t member => written t (List.mem_cons_of_mem _ member)) with ⟨results, mapped, texts⟩
      rw [List.mapM_cons, head, pure_bind, mapped, pure_bind]
      exact ⟨_, rfl, congrArg _ texts⟩

theorem evaluate_built {t : FilterTree} {e : Expr} (built : Built t e) (scope : Scope)
    (inside : scope.context = itContext) :
    ∃ root, (Renderer.standard schema).evaluate e scope = pure ⟨root, Option.some t.text⟩ := by
  induction t using FilterTree.induction generalizing e scope with
  | path names =>
    cases built with
    | path walked => exact evaluate_isPath schema walked scope inside
  | string text =>
    cases built
    rw [Renderer.evaluate_value]
    exact ⟨none, rfl⟩
  | int n =>
    cases built with
    | int width =>
      rw [Renderer.evaluate_value]
      rcases width with rfl | rfl
      · exact ⟨none, rfl⟩
      · exact ⟨none, rfl⟩
  | call name operands ih =>
    cases built with
    | call applies operands_are =>
      have shape := shape_of_applies applies
      rcases operands_built schema scope operands_are shape.plain
        (fun t member e built => ih t member built scope.atTop inside) with ⟨results, mapped, texts⟩
      rw [Renderer.evaluate_call (CallOf.reduce_of_plain shape.plain), shape.checked,
        Traced.ofExcept_ok, pure_bind, Renderer.receiverRendering, shape.receiver]
      dsimp only
      rw [pure_bind, mapped, pure_bind, texts, shape.layout]
      exact ⟨_, rfl⟩

theorem render_built {t : FilterTree} {e : Expr} (built : Built t e) :
    ((Renderer.standard schema).render e).outcome = .ok t.text := by
  rcases evaluate_built schema built .it rfl with ⟨root, written⟩
  rw [Renderer.render, written, pure_bind]
  rfl

end Rendering

end FilterTree
end ODataRequest
