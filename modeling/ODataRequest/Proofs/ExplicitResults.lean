import ODataRequest.Proofs.ArithmeticTypes
import ODataRequest.Proofs.Layouts
namespace ODataRequest.Arithmetic

/-!
Arithmetic with a result type of its own. The type decides which signature the call ends up with,
but all signatures of an operator have one layout and take operands as they are, so the type is
not seen in the text, however deep the call stands in a filter.
-/

open CallOf

def outputParameter : Parameter := .directive "output" .result "EDM output type"

namespace Operator

variable {n : Nat} {operator : Operator n} {operands : List Expr} {s : Signature}

def overloads (operator : Operator n) : Overloads :=
  ⟨operator.name, Builtin.numericTypes.map operator.signature⟩

def undecided (operator : Operator n) : Signature :=
  .declared operator.name .filter (parameters n ++ [outputParameter])
    (.undecided operator.overloads) operator.layout

/-- The operator applied to operands, with the type of the result still to be worked in. -/
def asking (operator : Operator n) (type : PrimitiveType) (operands : List Expr) : Call where
  receiver := none
  args := (operands ++ [Expr.directive (.result type)]).zip (parameters n ++ [outputParameter])
  signature := operator.undecided
  bindings := .empty

theorem signature_undecided (operator : Operator n) :
    Builtin.signature .filter (operator.name ++ "_as") = .ok operator.undecided := by
  cases operator <;> rfl

theorem numeric_asking (operator : Operator n) (type : PrimitiveType)
    (arity : operands.length = n) : Filter.numeric operator.name operands (some type) =
      .ok (.call (operator.asking type operands)) := by
  have positional : ∀ p ∈ operator.undecided.parameters, Signature.Positional p := by
    intro p member
    rcases List.mem_append.mp member with operand | output
    · exact parameters_positional operand
    · cases List.mem_singleton.mp output
      exact ⟨rfl, rfl, rfl⟩
  have enough : (operands ++ [Expr.directive (.result type)]).length =
      (parameters n ++ [outputParameter]).length := by
    rw [List.length_append, List.length_append, operator.length_parameters, arity]
    rfl
  rw [Filter.numeric, Filter.call, callBuiltin, signature_undecided]
  exact Signature.apply_of_positional positional enough

/-- A signature that a call of the operator can be rendered with. -/
structure Settled (operator : Operator n) (s : Signature) : Prop where
  laid : s.layout = operator.layout
  parameters : s.parameters = Arithmetic.parameters n
  typed : ∃ type, s.result = .type type

theorem settled_signature (operator : Operator n) (type : PrimitiveType) :
    operator.Settled (operator.signature type) :=
  ⟨rfl, rfl, _, rfl⟩

/-- The directive picks an overload if there is one of its type, and narrows the result if not. -/
theorem settled_asking (operator : Operator n) (type : PrimitiveType) (operands : List Expr)
    (argument : Argument) (output : argument.2 = outputParameter) :
    operator.Settled ((operator.asking type operands).settledSignature argument type.type) := by
  cases found : operator.overloads.byResult? type.type with
  | some overload =>
    obtain ⟨other, _, rfl⟩ := List.mem_map.mp (List.mem_of_find?_eq_some found)
    have picked : (operator.asking type operands).settledSignature argument type.type =
        { operator.signature other with constructedFrom := some operator.undecided } := by
      simp only [settledSignature, asking, undecided, Signature.declared, found]
    rw [picked]
    exact ⟨rfl, rfl, _, rfl⟩
  | none =>
    have narrowed : (operator.asking type operands).settledSignature argument type.type =
        ((operator.asking type operands).signatureWithout [argument]).narrowed type.type := by
      simp only [settledSignature, asking, undecided, Signature.declared, found]
    rw [narrowed, signatureWithout, List.map_singleton, output]
    refine ⟨rfl, ?_, _, rfl⟩
    cases operator <;> rfl

theorem Settled.valid (settled : operator.Settled s) : s.validate = .ok () := by
  have distinct : firstRepeated? [] ((Arithmetic.parameters n).map Parameter.name) = none := by
    cases operator <;> rfl
  rw [Signature.validate, settled.parameters, distinct]

theorem plain_operands {argument : Argument} (member : argument ∈ operands.zip (parameters n)) :
    argument.2.directiveKind? = none := by
  obtain ⟨name, same⟩ := parameters_untyped (List.of_mem_zip member).2
  rw [same]
  rfl

theorem Settled.bare (settled : operator.Settled s) (arity : operands.length = n) :
    Bare operator.layout operands ⟨none, operands.zip (Arithmetic.parameters n), s, .empty⟩ := by
  constructor
  case laid => exact settled.laid
  case receiver => rfl
  case checked =>
    obtain ⟨type, typed⟩ := settled.typed
    rw [Renderer.checkCall, settled.valid, typed]
    rfl
  case plain => exact fun argument => plain_operands
  case given => exact List.map_fst_zip (by rw [operator.length_parameters, arity])

theorem asking_laysOut {schema : Schema} (operator : Operator n) (type : PrimitiveType)
    (arity : operands.length = n) :
    (operator.asking type operands).LaysOut schema operator.layout operands := by
  let output : Argument := (.directive (.result type), outputParameter)
  have laid : (operator.asking type operands).signature.layout = operator.layout := rfl
  have last : (operator.asking type operands).args = operands.zip (parameters n) ++ [output] :=
    List.zip_append (arity.trans operator.length_parameters.symm)
  have settled := operator.settled_asking type operands output rfl
  refine laysOut_of_last laid last rfl (fun argument => plain_operands) ?_ (settled.bare arity)
  intro split
  rw [CallOf.round, split]
  simp only [List.append_nil]
  rfl

theorem numeric_laysOut (operator : Operator n) (result : Option PrimitiveType) (schema : Schema)
    (arity : operands.length = n) :
    ∃ c, Filter.numeric operator.name operands result = .ok (.call c) ∧
      c.LaysOut schema operator.layout operands := by
  cases result with
  | none =>
    have bare := (operator.settled_signature (inferred
      (!operator.isQuotient && operands.all Expr.isInteger))).bare arity
    exact ⟨_, operator.numeric_inferred arity, bare.laysOut⟩
  | some type => exact ⟨_, operator.numeric_asking type arity, operator.asking_laysOut type arity⟩

end Operator

/-- A call around one of its operands. -/
inductive Frame
  | all (before after : List Expr)
  | some (before after : List Expr)
  | not
  | numeric {n : Nat} (operator : Operator n) (before after : List Expr)
      (arity : before.length + 1 + after.length = n) (result : Option PrimitiveType)

namespace Frame

def fill (frame : Frame) (e : Expr) : Except Error Expr :=
  match frame with
  | all before after => Filter.all (before ++ e :: after)
  | some before after => Filter.some (before ++ e :: after)
  | not => Filter.not e
  | numeric operator before after _ result =>
    Filter.numeric operator.name (before ++ e :: after) result

def layout : Frame → Layout
  | all _ _ => .between "and"
  | some _ _ => .between "or"
  | not => .before "not "
  | numeric operator _ _ _ _ => operator.layout

def operands (frame : Frame) (e : Expr) : List Expr :=
  match frame with
  | all before after | some before after =>
    (before ++ e :: after).map (Expr.expecting (Option.some .boolean))
  | not => [e.expecting (Option.some .boolean)]
  | numeric _ before after _ _ => before ++ e :: after

end Frame

theorem call_expecting (name : String) {s : Signature} {p : Parameter} {nullability : Nullability}
    {type result : TypeRef} {args : List Expr} (found : Builtin.signature .filter name = .ok s)
    (kind : p.kind = .operand (.concrete type) nullability)
    (walk : Signature.Pairing s.parameters args (args.map (·, p)) [])
    (valid : s.validate = .ok ()) (typed : s.result = .type result) :
    ∃ c, Filter.call name args = .ok (.call c) ∧
      Bare s.layout (args.map (Expr.expecting (some type))) c := by
  have pairs (bindings : Table TypeRef) : (args.map (·, p)).map (Signature.typeConstant bindings) =
      (args.map (Expr.expecting (some type))).map (·, p) := by
    have resolved : Signature.resolvedType? p bindings = some type := by
      rw [Signature.resolvedType?, kind]
    simp only [List.map_map, Function.comp_def, Signature.typeConstant_eq, resolved]
  rw [Filter.call, callBuiltin, found]
  refine ⟨_, Signature.apply_of_pairing walk, ?_⟩
  rw [pairs]
  constructor
  case laid => rfl
  case receiver => rfl
  case checked =>
    rw [Renderer.checkCall, valid, typed]
    rfl
  case plain =>
    intro argument member
    obtain ⟨e, _, rfl⟩ := List.mem_map.mp member
    rw [Parameter.directiveKind?, kind]
  case given => rw [List.map_map, Function.comp_def, List.map_id']

namespace Frame

variable {renderer : Renderer} {e : Expr} {c c' : Call}

theorem fill_laysOut (frame : Frame) (e : Expr) (schema : Schema) :
    ∃ c, frame.fill e = .ok (.call c) ∧ c.LaysOut schema frame.layout (frame.operands e) := by
  cases frame with
  | all before after =>
    obtain ⟨c, made, bare⟩ := call_expecting "and" rfl rfl
      (Signature.pairing_repeated rfl rfl (before ++ e :: after)) rfl rfl
    exact ⟨c, made, bare.laysOut⟩
  | some before after =>
    obtain ⟨c, made, bare⟩ := call_expecting "or" rfl rfl
      (Signature.pairing_repeated rfl rfl (before ++ e :: after)) rfl rfl
    exact ⟨c, made, bare.laysOut⟩
  | not =>
    have walk : Signature.Pairing [Builtin.typed "condition" .boolean] [e] _ [] :=
      .taken rfl nofun .done
    obtain ⟨c, made, bare⟩ := call_expecting "not" rfl rfl walk rfl rfl
    exact ⟨c, made, bare.laysOut⟩
  | numeric operator before after arity result =>
    apply operator.numeric_laysOut result schema
    simp [← arity, Nat.add_assoc, Nat.add_comm 1]

theorem interchangeable_around {before after : List Expr} {e e' : Expr}
    (same : renderer.Interchangeable e e') :
    List.Forall₂ renderer.Interchangeable (before ++ e :: after) (before ++ e' :: after) := by
  have rest (es : List Expr) : List.Forall₂ renderer.Interchangeable es es :=
    List.forall₂_same.mpr fun e _ => .refl e
  exact List.rel_append (rest before) (.cons same (rest after))

theorem fill_interchangeable (frame : Frame)
    (same : renderer.Interchangeable (.call c) (.call c')) :
    ∃ d d', frame.fill (.call c) = .ok (.call d) ∧ frame.fill (.call c') = .ok (.call d') ∧
      renderer.Interchangeable (.call d) (.call d') := by
  obtain ⟨d, made, lays⟩ := frame.fill_laysOut (.call c) renderer.schema
  obtain ⟨d', made', lays'⟩ := frame.fill_laysOut (.call c') renderer.schema
  refine ⟨d, d', made, made', Renderer.interchangeable_of_laysOut lays lays' ?_⟩
  cases frame with
  | all before after | some before after =>
    rw [operands, operands, List.map_append, List.map_append]
    exact interchangeable_around same
  | not => exact .cons same .nil
  | numeric operator before after arity result => exact interchangeable_around same

/-- An expression within frames, the innermost of which comes first. -/
def surround (frames : List Frame) (e : Expr) : Except Error Expr :=
  frames.foldlM (fun e frame => frame.fill e) e

theorem surround_interchangeable (frames : List Frame)
    (same : renderer.Interchangeable (.call c) (.call c')) :
    ∃ d d', surround frames (.call c) = .ok (.call d) ∧
      surround frames (.call c') = .ok (.call d') ∧
      renderer.Interchangeable (.call d) (.call d') := by
  induction frames generalizing c c' with
  | nil => exact ⟨c, c', rfl, rfl, same⟩
  | cons frame frames ih =>
    obtain ⟨d, d', made, made', filled⟩ := frame.fill_interchangeable same
    obtain ⟨f, f', around, around', surrounded⟩ := ih filled
    refine ⟨f, f', ?_, ?_, surrounded⟩
    · rw [surround, List.foldlM_cons, made]
      exact around
    · rw [surround, List.foldlM_cons, made']
      exact around'

end Frame

/-- Whether the result type is given or inferred cannot be told from the text, nor from whether
there is one, however many calls stand around the arithmetic. -/
theorem render_explicit_equivalent (renderer : Renderer) (operator : Operator 2)
    (left right : Expr) (result : PrimitiveType) (frames : List Frame) :
    ∃ e e', (Filter.arithmetic operator.name left right none >>= Frame.surround frames) = .ok e ∧
      (Filter.arithmetic operator.name left right (some result) >>= Frame.surround frames) =
        .ok e' ∧
      (renderer.render e).Equivalent (renderer.render e') := by
  have arity : [left, right].length = 2 := rfl
  obtain ⟨c, made, lays⟩ := operator.numeric_laysOut none renderer.schema arity
  obtain ⟨c', made', lays'⟩ := operator.numeric_laysOut (some result) renderer.schema arity
  have same := Renderer.interchangeable_of_laysOut lays lays'
    (List.forall₂_same.mpr fun e _ => .refl e)
  obtain ⟨d, d', around, around', surrounded⟩ := Frame.surround_interchangeable frames same
  refine ⟨.call d, .call d', ?_, ?_, ?_⟩
  · rw [Filter.arithmetic, made]
    exact around
  · rw [Filter.arithmetic, made']
    exact around'
  · exact surrounded.render

end ODataRequest.Arithmetic
