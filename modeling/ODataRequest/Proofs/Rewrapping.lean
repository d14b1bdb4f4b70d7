import ODataRequest.Proofs.FilterTree
import ODataRequest.Proofs.Interchange
namespace ODataRequest

namespace Expr

def wrapped (e : Expr) (context : String) : Nat → Expr
  | 0 => e
  | n + 1 => .inContext (e.wrapped context n) context

def unwrapped : Expr → Expr
  | inContext e _ => e.unwrapped
  | e => e

def wraps : Expr → Nat
  | inContext e _ => e.wraps + 1
  | _ => 0

def isInfix : Expr → Bool
  | call c => match c.signature.layout with
    | .between _ => true
    | _ => false
  | _ => false

variable {e : Expr} {context : String}

theorem unwrapped_wrapped (n : Nat) : (e.wrapped context n).unwrapped = e.unwrapped := by
  induction n with
  | zero => rfl
  | succ n ih => exact ih

theorem wraps_wrapped (n : Nat) : (e.wrapped context n).wraps = e.wraps + n := by
  induction n with
  | zero => rfl
  | succ n ih => rw [wrapped, wraps, ih, Nat.add_assoc]

theorem result_wrapped (n : Nat) : (e.wrapped context n).result? = e.result? := by
  induction n with
  | zero => rfl
  | succ n ih => exact ih

theorem topCall_wrapped (n : Nat) : (e.wrapped context n).topCall? = e.topCall? := by
  induction n with
  | zero => rfl
  | succ n ih => exact ih

end Expr

/-- An operand that had parentheses has not come to stand under a second context. -/
def Kept (e e' : Expr) : Prop :=
  e.unwrapped.isInfix = true → e.wraps ≤ 1 → e'.wraps ≤ 1

/-- Within the second expression, which is rendered in the context, one part of the first one has
been put `n` times into the context that it is rendered in. On the way operands are kept, and so
is the root that a sub-query has its custom name from, which is found under no context at all. What
an alias refers to is no part here: it is rendered apart, where the alias is bound. -/
inductive Rewraps (n : Nat) (keeps : Expr → Expr → Prop) : String → Expr → Expr → Prop
  | same {context : String} (e : Expr) : Rewraps n keeps context e e
  | here {context : String} {e : Expr} :
      e.isConstant = false → Rewraps n keeps context e (e.wrapped context n)
  | parent {context name : String} {e e' : Expr} {result : Result} :
      Rewraps n keeps context e e' →
      Rewraps n keeps context (.property (some e) name result) (.property (some e') name result)
  | receiver {context : String} {e e' : Expr} {args : List (Expr × Parameter)}
      {signature : Signature} {bindings : Table TypeRef} :
      Rewraps n keeps context e e' →
      Rewraps n keeps context (.call ⟨some e, args, signature, bindings⟩)
        (.call ⟨some e', args, signature, bindings⟩)
  | argument {context : String} {e e' : Expr} {p : Parameter} {receiver : Option Expr}
      {before after : List (Expr × Parameter)} {signature : Signature}
      {bindings : Table TypeRef} :
      Rewraps n keeps context e e' → keeps e e' →
      Rewraps n keeps context
        (.call ⟨receiver, before ++ (e, p) :: after, signature, bindings⟩)
        (.call ⟨receiver, before ++ (e', p) :: after, signature, bindings⟩)
  | path {context name : String} {e e' : Expr} {before after : List (String × Expr)} :
      Rewraps n keeps itContext e e' →
      Rewraps n keeps context (.directive (.rawPaths (before ++ (name, e) :: after)))
        (.directive (.rawPaths (before ++ (name, e') :: after)))
  | subQueries {context : String} {build : Schema → TypeRef → Except Error (List Expr)}
      {put : Expr → Expr} :
      (∀ schema type queries, build schema type = .ok queries → ∀ e ∈ queries,
        Rewraps n keeps itContext e (put e)) →
      (∀ schema type queries, build schema type = .ok queries → ∀ e ∈ queries,
        (put e).topCall?.bind Clause.customReceiver? = e.topCall?.bind Clause.customReceiver?) →
      Rewraps n keeps context (.directive (.subQueries build))
        (.directive (.subQueries fun schema type => (build schema type).map (List.map put)))
  | inContext {context inner : String} {e e' : Expr} :
      Rewraps n keeps inner e e' →
      Rewraps n keeps context (.inContext e inner) (.inContext e' inner)
  | named {context : String} {e e' : Expr} {symbol : RootSymbol} :
      Rewraps n keeps context e e' →
      Rewraps n keeps context (.named e symbol) (.named e' symbol)
  | part {context : String} {e e' : Expr} {before after : List Part} {result : Result} :
      Rewraps n keeps context e e' →
      Rewraps n keeps context (.assembled (before ++ .expr e :: after) result)
        (.assembled (before ++ .expr e' :: after) result)

namespace Renderer

/-- An operator is told apart from its operands by position, so these may need parentheses. -/
def isOperator : Layout → Bool
  | .between _ | .before _ | .after _ => true
  | _ => false

/-- Parentheses are found under one context at most. -/
theorem needsParentheses_eq (layout : Layout) (e : Expr) :
    needsParentheses layout e =
      (isOperator layout && e.unwrapped.isInfix && decide (e.wraps ≤ 1)) := by
  cases e with
  | call c =>
    cases layout <;> cases inner : c.signature.layout <;>
      simp [needsParentheses, isOperator, Expr.unwrapped, Expr.isInfix, Expr.wraps, inner]
  | inContext inner context =>
    cases inner with
    | call c =>
      cases layout <;> cases inner : c.signature.layout <;>
        simp [needsParentheses, isOperator, Expr.unwrapped, Expr.isInfix, Expr.wraps, inner]
    | inContext deeper other =>
      cases layout <;> simp [needsParentheses, Expr.wraps]
    | _ => cases layout <;> simp [needsParentheses, Expr.unwrapped, Expr.isInfix]
  | _ => cases layout <;> simp [needsParentheses, Expr.unwrapped, Expr.isInfix]

end Renderer

section Shape

variable {n : Nat} {keeps : Expr → Expr → Prop} {context : String} {e e' : Expr}

theorem Rewraps.infix_and_wraps (rewraps : Rewraps n keeps context e e') :
    e'.unwrapped.isInfix = e.unwrapped.isInfix ∧ e.wraps ≤ e'.wraps := by
  induction rewraps with
  | same e => exact ⟨rfl, Nat.le_refl _⟩
  | here =>
    rw [Expr.unwrapped_wrapped, Expr.wraps_wrapped]
    exact ⟨rfl, Nat.le_add_right _ _⟩
  | inContext _ ih => exact ⟨ih.1, Nat.succ_le_succ ih.2⟩
  | _ => exact ⟨rfl, Nat.le_refl _⟩

theorem Rewraps.needsParentheses_iff (rewraps : Rewraps n keeps context e e') {layout : Layout}
    (operator : Renderer.isOperator layout = true) :
    Renderer.needsParentheses layout e' = Renderer.needsParentheses layout e ↔ Kept e e' := by
  rcases rewraps.infix_and_wraps with ⟨sameInfix, more⟩
  rw [Renderer.needsParentheses_eq, Renderer.needsParentheses_eq, operator, sameInfix, Kept]
  cases e.unwrapped.isInfix with
  | false => simp
  | true =>
    simp only [Bool.true_and, decide_eq_decide]
    constructor
    · intro same _ few
      exact same.mpr few
    · intro kept
      exact ⟨fun few => Nat.le_trans more few, fun few => kept trivial few⟩

theorem Rewraps.needsParentheses (rewraps : Rewraps n keeps context e e') (kept : Kept e e')
    (layout : Layout) :
    Renderer.needsParentheses layout e' = Renderer.needsParentheses layout e := by
  by_cases operator : Renderer.isOperator layout = true
  · exact (rewraps.needsParentheses_iff operator).mpr kept
  · rw [Renderer.needsParentheses_eq, Renderer.needsParentheses_eq]
    simp [operator]

def Expr.givenName? : Expr → Option String
  | .directive (.customName name) => some name
  | _ => none

theorem Clause.customName_eq (c : Call) :
    customName? c = c.args.findSome? fun argument => argument.1.givenName? := by
  rw [customName?]
  congr 1
  funext argument
  rcases argument with ⟨e, p⟩
  cases e with
  | directive d => cases d <;> rfl
  | _ => rfl

theorem Rewraps.givenName (rewraps : Rewraps n keeps context e e') :
    e'.givenName? = e.givenName? := by
  cases rewraps with
  | here plain =>
    cases n with
    | zero => rfl
    | succ n =>
      cases e with
      | directive => cases plain
      | _ => rfl
  | _ => rfl

/-- The outermost call is found under any number of contexts, and says the same about the key but
for its receiver. -/
theorem Rewraps.topCall (rewraps : Rewraps n keeps context e e') :
    Option.Rel (fun c c' => c'.signature = c.signature ∧
      Clause.customName? c' = Clause.customName? c) e.topCall? e'.topCall? := by
  have refl (found : Option Call) : Option.Rel (fun c c' => c'.signature = c.signature ∧
      Clause.customName? c' = Clause.customName? c) found found := by
    cases found with
    | none => exact .none
    | some c => exact .some ⟨rfl, rfl⟩
  induction rewraps with
  | same e => exact refl _
  | here =>
    rw [Expr.topCall_wrapped]
    exact refl _
  | receiver => exact .some ⟨rfl, rfl⟩
  | argument rewraps =>
    refine .some ⟨rfl, ?_⟩
    rw [Clause.customName_eq, Clause.customName_eq, List.findSome?_append, List.findSome?_append,
      List.findSome?_cons, List.findSome?_cons, rewraps.givenName]
  | inContext _ ih => exact ih
  | named _ ih => exact ih
  | parent | path | subQueries | part => exact .none

theorem Rewraps.key (rewraps : Rewraps n keeps context e e')
    (receivers : e'.topCall?.bind Clause.customReceiver? =
      e.topCall?.bind Clause.customReceiver?) :
    (Clause.mk e').key = (Clause.mk e).key := by
  have calls := rewraps.topCall
  rw [Clause.key, Clause.key, Clause.call, Clause.call]
  dsimp only
  generalize e.topCall? = found, e'.topCall? = found' at calls receivers ⊢
  cases calls with
  | none => rfl
  | @some c c' same =>
    have receiver : Clause.customReceiver? c' = Clause.customReceiver? c := receivers
    simp only [bind, Except.bind, receiver, same.1, same.2]

end Shape

namespace Renderer

variable {renderer : Renderer} {n : Nat} {context : String} {e e' : Expr}

theorem evaluate_wrapped (e : Expr) {scope : Scope} (inside : scope.context = context) (n : Nat) :
    renderer.evaluate (e.wrapped context n) scope = renderer.evaluate e scope := by
  subst inside
  induction n with
  | zero => rfl
  | succ n ih =>
    rw [Expr.wrapped, evaluate_inContext]
    exact ih

end Renderer

section Standing

open Renderer

variable {renderer : Renderer} {n : Nat} {context : String} {e e' : Expr}

theorem Rewraps.agrees (rewraps : Rewraps n Kept context e e') :
    renderer.Agrees context e e' ∧ renderer.LooksLike e e' := by
  induction rewraps with
  | same e => exact ⟨.refl e, .same e⟩
  | @here context e plain =>
    refine ⟨⟨fun scope inside => evaluate_wrapped e inside n, Expr.result_wrapped n⟩, ?_⟩
    cases n with
    | zero => exact .same e
    | succ n => exact .other plain rfl
  | parent _ ih => exact ⟨ih.1.parent, .other rfl rfl⟩
  | receiver _ ih =>
    exact ⟨CallAgrees.agrees ⟨rfl, .some ih.1, refl_args _⟩, .other rfl rfl⟩
  | @argument context e e' p receiver before after _ _ rewraps kept ih =>
    have received : Option.Rel (renderer.Agrees context) receiver receiver := by
      cases receiver with
      | none => exact .none
      | some e => exact .some (.refl e)
    have changed : renderer.ArgumentAgrees context (e, p) (e', p) :=
      ⟨rfl, ih.1, ih.2, rewraps.needsParentheses kept⟩
    have args := List.rel_append (refl_args before) (.cons changed (refl_args after))
    exact ⟨CallAgrees.agrees ⟨rfl, received, args⟩, .other rfl rfl⟩
  | @path context name e e' before after _ ih =>
    have each (paths : List (String × Expr)) : List.Forall₂ renderer.PathAgrees paths paths :=
      List.forall₂_same.mpr fun path _ => ⟨rfl, .refl path.2⟩
    have changed : renderer.PathAgrees (name, e) (name, e') := ⟨rfl, ih.1⟩
    have paths := List.rel_append (each before) (.cons changed (each after))
    refine ⟨⟨fun scope _ => ?_, rfl⟩, .directive (.rawPaths paths)⟩
    rw [evaluate_directive, evaluate_directive]
    rfl
  | @subQueries context build put rewraps receivers ih =>
    have each : ∀ schema type, Alike (List.Forall₂ renderer.QueryAgrees) (build schema type)
        ((build schema type).map (List.map put)) := by
      intro schema type
      cases built : build schema type with
      | error e => exact .error e
      | ok queries =>
        refine .ok (List.forall₂_map_right_iff.mpr (List.forall₂_same.mpr fun e member => ?_))
        exact ⟨(ih schema type queries built e member).1,
          (rewraps schema type queries built e member).key
            (receivers schema type queries built e member)⟩
    refine ⟨⟨fun scope _ => ?_, rfl⟩, .directive (.subQueries each)⟩
    rw [evaluate_directive, evaluate_directive]
    rfl
  | inContext _ ih => exact ⟨ih.1.inContext, .other rfl rfl⟩
  | named _ ih => exact ⟨ih.1.named, .other rfl rfl⟩
  | @part context e e' before after result _ ih =>
    have each (parts : List Part) :
        List.Forall₂ (Agrees.OfParts renderer context) parts parts := by
      apply List.forall₂_same.mpr
      intro part _
      cases part with
      | text text => exact .text text
      | expr e => exact .expr (.refl e)
    exact ⟨.assembled (List.rel_append (each before) (.cons (.expr ih.1) (each after))),
      .other rfl rfl⟩

end Standing

theorem Text.joined_around (separator : String) (front back : List String) :
    ∃ left right, ∀ text, joined separator (front ++ text :: back) = left ++ text ++ right := by
  cases front with
  | nil =>
    refine ⟨"", String.join (back.map (separator ++ ·)), fun text => ?_⟩
    rw [List.nil_append, joined_cons, String.empty_append]
  | cons first rest =>
    refine ⟨first ++ String.join (rest.map (separator ++ ·)) ++ separator,
      String.join (back.map (separator ++ ·)), fun text => ?_⟩
    rw [List.cons_append, joined_cons, List.map_append, List.map_cons, String.join_append,
      String.join_cons]
    simp only [String.append_assoc]

namespace Renderer

variable {renderer : Renderer} {n : Nat}

theorem callText_around {layout : Layout} (operator : isOperator layout = true)
    (receiver : Option String) (front back : List String) :
    ∃ left right, ∀ text,
      callText layout receiver (front ++ text :: back) = left ++ text ++ right := by
  cases layout with
  | between mark => exact Text.joined_around _ front back
  | before mark =>
    rcases Text.joined_around "," front back with ⟨left, right, around⟩
    refine ⟨mark ++ left, right, fun text => ?_⟩
    rw [callText, around]
    simp only [String.append_assoc]
  | after mark =>
    rcases Text.joined_around "," front back with ⟨left, right, around⟩
    refine ⟨left, right ++ mark, fun text => ?_⟩
    rw [callText, around]
    simp only [String.append_assoc]
  | _ => cases operator

theorem parenthesized_ne (text : String) : "(" ++ text ++ ")" ≠ text := by
  intro same
  have lengths := congrArg String.length same
  simp only [String.length_append] at lengths
  have opening : "(".length = 1 := rfl
  omega

theorem needsParentheses_of_operandText {layout : Layout} {e e' : Expr} {text : String}
    (same : operandText layout e text = operandText layout e' text) :
    needsParentheses layout e' = needsParentheses layout e := by
  rw [operandText, operandText] at same
  cases opened : needsParentheses layout e with
  | true =>
    cases opened' : needsParentheses layout e' with
    | true => rfl
    | false =>
      rw [opened, opened', if_pos rfl, if_neg Bool.false_ne_true] at same
      exact absurd same (parenthesized_ne text)
  | false =>
    cases opened' : needsParentheses layout e' with
    | true =>
      rw [opened, opened', if_pos rfl, if_neg Bool.false_ne_true] at same
      exact absurd same.symm (parenthesized_ne text)
    | false => rfl

variable {c : Call} {before after : List (Expr × Parameter)} {operand operand' : Expr}
  {p : Parameter} {scope : Scope} {rendering : Rendering}

theorem text_around (args : c.args = before ++ (operand, p) :: after)
    (plain : ∀ argument ∈ c.args, argument.2.directiveKind? = none)
    (evaluated : (renderer.evaluate (.call c) scope).outcome = .ok rendering) :
    ∃ receiver front opened back,
      (renderer.receiverRendering c scope).outcome = .ok receiver ∧
      (before.mapM (renderer.operand c scope)).outcome = .ok front ∧
      (renderer.operand c scope (operand, p)).outcome = .ok opened ∧
      (after.mapM (renderer.operand c scope)).outcome = .ok back ∧
      rendering.text = some (callText c.signature.layout receiver.text
        (front.map Prod.snd ++ opened.2 :: back.map Prod.snd)) := by
  rw [evaluate_call (CallOf.reduce_of_plain plain), args, List.mapM_append, List.mapM_cons]
    at evaluated
  rcases Traced.outcome_bind_eq_ok.mp evaluated with ⟨_, _, evaluated⟩
  rcases Traced.outcome_bind_eq_ok.mp evaluated with ⟨receiver, received, evaluated⟩
  rcases Traced.outcome_bind_eq_ok.mp evaluated with ⟨operands, written, same⟩
  rcases Traced.outcome_bind_eq_ok.mp written with ⟨front, first, written⟩
  rcases Traced.outcome_bind_eq_ok.mp written with ⟨others, written, whole⟩
  rcases Traced.outcome_bind_eq_ok.mp written with ⟨opened, second, written⟩
  rcases Traced.outcome_bind_eq_ok.mp written with ⟨back, third, rest⟩
  cases rest
  cases whole
  cases same
  refine ⟨receiver, front, opened, back, received, first, second, third, ?_⟩
  simp only [List.map_append, List.map_cons]

theorem operand_eq_ok {written : Option RootSymbol × String}
    (evaluated : (renderer.operand c scope (operand, p)).outcome = .ok written) :
    ∃ rendering, (renderer.evaluate operand scope.atTop).outcome = .ok rendering ∧
      written.2 = operandText c.signature.layout operand rendering.textOrEmpty := by
  rw [Renderer.operand] at evaluated
  split at evaluated
  · cases evaluated
  · rcases Traced.outcome_bind_eq_ok.mp evaluated with ⟨rendering, inside, same⟩
    cases same
    exact ⟨rendering, inside, rfl⟩

/-- An operator that can be written is written alike exactly if its operand is kept. -/
theorem evaluate_operator_iff (args : c.args = before ++ (operand, p) :: after)
    (plain : ∀ argument ∈ c.args, argument.2.directiveKind? = none)
    (operator : isOperator c.signature.layout = true)
    (rewraps : Rewraps n Kept scope.context operand operand')
    (evaluated : (renderer.evaluate (.call c) scope).outcome = .ok rendering) :
    renderer.evaluate (.call { c with args := before ++ (operand', p) :: after }) scope =
      renderer.evaluate (.call c) scope ↔ Kept operand operand' := by
  let c' : Call := { c with args := before ++ (operand', p) :: after }
  constructor
  · intro same
    apply (rewraps.needsParentheses_iff operator).mp
    have plain' : ∀ argument ∈ c'.args, argument.2.directiveKind? = none := by
      intro argument member
      rcases List.mem_append.mp member with member | member
      · exact plain argument (args ▸ List.mem_append_left _ member)
      · rcases List.mem_cons.mp member with rfl | member
        · exact plain (operand, p) (args ▸ List.mem_append_right _ List.mem_cons_self)
        · exact plain argument
            (args ▸ List.mem_append_right _ (List.mem_cons_of_mem _ member))
    have evaluated' : (renderer.evaluate (.call c') scope).outcome = .ok rendering :=
      (congrArg Traced.outcome same).trans evaluated
    rcases text_around args plain evaluated with
      ⟨receiver, front, opened, back, received, first, second, third, text⟩
    rcases text_around rfl plain' evaluated' with
      ⟨receiver', front', opened', back', received', first', second', third', text'⟩
    cases received.symm.trans received'
    cases first.symm.trans first'
    cases third.symm.trans third'
    rcases operand_eq_ok second with ⟨inner, inside, written⟩
    rcases operand_eq_ok second' with ⟨inner', inside', written'⟩
    have alike : renderer.evaluate operand' scope.atTop = renderer.evaluate operand scope.atTop :=
      rewraps.agrees.1.evaluated scope.atTop rfl
    rw [alike] at inside'
    cases inside.symm.trans inside'
    -- Around the operand both texts are the same, so the operand has parentheses in both.
    rcases callText_around operator receiver.text (front.map Prod.snd) (back.map Prod.snd) with
      ⟨left, right, around⟩
    have texts : callText c.signature.layout receiver.text
        (front.map Prod.snd ++ opened.2 :: back.map Prod.snd) = callText c.signature.layout
        receiver.text (front.map Prod.snd ++ opened'.2 :: back.map Prod.snd) :=
      Option.some.inj (text.symm.trans text')
    rw [around, around, String.append_left_inj, String.append_right_inj, written, written'] at texts
    exact needsParentheses_of_operandText texts
  · intro kept
    rcases c with ⟨receiver, _, signature, bindings⟩
    cases args
    exact (Rewraps.argument rewraps kept).agrees.1.evaluated scope rfl

/-- Putting a part of an expression into its context any number of times changes nothing, if the
operands around it are kept. For an operator that can be written this is exactly what it takes. -/
theorem render_rewrapped (renderer : Renderer) (n : Nat) :
    (∀ e e', Rewraps n Kept itContext e e' → renderer.render e' = renderer.render e) ∧
    ∀ (c : Call) (before after : List (Expr × Parameter)) (operand operand' : Expr)
      (p : Parameter) (scope : Scope) (rendering : Rendering),
      c.args = before ++ (operand, p) :: after →
      (∀ argument ∈ c.args, argument.2.directiveKind? = none) →
      isOperator c.signature.layout = true →
      Rewraps n Kept scope.context operand operand' →
      (renderer.evaluate (.call c) scope).outcome = .ok rendering →
      (renderer.evaluate (.call { c with args := before ++ (operand', p) :: after }) scope =
        renderer.evaluate (.call c) scope ↔ Kept operand operand') := by
  constructor
  · intro e e' rewraps
    rw [render, render, rewraps.agrees.1.evaluated .it rfl]
  · intro c before after operand operand' p scope rendering args plain operator rewraps evaluated
    exact evaluate_operator_iff args plain operator rewraps evaluated

end Renderer

namespace Offers

def schema : Schema := ⟨[], by decide⟩

def price : Expr :=
  .member (some (.root (.ofType itContext (.named "Offers" "Offer")))) "Price" .int64

def cheap : Call where
  receiver := none
  args := [
    (price, Builtin.generic "lhs"),
    (.value (.int 1) (some .int64), (Builtin.generic "rhs").withNullability .nullable)]
  signature := .declared "eq" .filter
    [Builtin.generic "lhs", (Builtin.generic "rhs").withNullability .nullable, Builtin.format]
    (.type .boolean) (.between "eq")
  bindings := .ofList [("T", .int64)]

def negatedParameter : Parameter := Builtin.typed "condition" .boolean

def negated (e : Expr) : Call where
  receiver := none
  args := [(e, negatedParameter)]
  signature := .declared "not" .filter [negatedParameter] (.type .boolean) (.before "not ")
  bindings := .empty

theorem compare_cheap :
    Filter.compare "eq" price (.constant (.int 1)) none = .ok (.call cheap) := rfl

theorem not_cheap : Filter.not (.call cheap) = .ok (.call (negated (.call cheap))) := rfl

theorem evaluate_cheap : ∃ root, (Renderer.standard schema).evaluate (.call cheap) .it =
    pure ⟨root, some "Price eq 1"⟩ := by
  have segment : FilterTree.IsSegment "Price" := ⟨by simp, ⟨'P', rfl, rfl⟩, by decide⟩
  have applies : FilterTree.Applies "eq" [price, .constant (.int 1)] (.call cheap) :=
    .compare List.mem_cons_self compare_cheap
  have built : FilterTree.Built (.call "eq" [.path ["Price"], .int 1]) (.call cheap) :=
    .call applies (.cons (.path (.first rfl segment)) (.cons (.int (.inl rfl)) .nil))
  exact FilterTree.evaluate_built schema built .it rfl

def condition (n : Nat) : Expr := (Expr.call cheap).wrapped itContext n

def negation (n : Nat) : Expr := .call (negated (condition n))

def negationText (n : Nat) : String :=
  Renderer.callText (.before "not ") none
    [Renderer.operandText (.before "not ") (condition n) "Price eq 1"]

theorem render_negation (n : Nat) :
    (Renderer.standard schema).render (negation n) = pure (negationText n) := by
  rcases evaluate_cheap with ⟨root, evaluated⟩
  have inside : (Renderer.standard schema).evaluate (condition n) .it =
      pure ⟨root, some "Price eq 1"⟩ := (Renderer.evaluate_wrapped _ rfl n).trans evaluated
  have plain : ∀ argument ∈ (negated (condition n)).args, argument.2.directiveKind? = none :=
    List.forall_mem_singleton.mpr rfl
  have other : (condition n).isConstant = false := by cases n <;> rfl
  have operand : (Renderer.standard schema).operand (negated (condition n)) .it
      (condition n, negatedParameter) =
        pure (root, Renderer.operandText (.before "not ") (condition n) "Price eq 1") := by
    rw [Renderer.operand, Renderer.isDirective_of_open other,
      show Scope.it.atTop = .it from rfl, inside]
    rfl
  rw [Renderer.render, negation, Renderer.evaluate_call (CallOf.reduce_of_plain plain),
    show (negated (condition n)).args = [(condition n, negatedParameter)] from rfl, List.mapM_cons,
    operand]
  rfl

theorem rewraps_condition (n : Nat) (keeps : Expr → Expr → Prop) :
    Rewraps n keeps itContext (condition 0) (condition n) := .here rfl

theorem rewraps_negation {n : Nat} {keeps : Expr → Expr → Prop}
    (kept : keeps (condition 0) (condition n)) :
    Rewraps n keeps itContext (negation 0) (negation n) :=
  @Rewraps.argument n keeps itContext (condition 0) (condition n) negatedParameter none [] [] _ _
    (rewraps_condition n keeps) kept

end Offers

theorem Renderer.render_rewrapped_negation :
    (Renderer.standard Offers.schema).render (Offers.negation 1) =
      (Renderer.standard Offers.schema).render (Offers.negation 0) ∧
    ((Renderer.standard Offers.schema).evaluate (Offers.negation 2) .it =
      (Renderer.standard Offers.schema).evaluate (Offers.negation 0) .it ↔
        Kept (Offers.condition 0) (Offers.condition 2)) := by
  have kept : Kept (Offers.condition 0) (Offers.condition 1) := fun _ _ => Nat.le_refl 1
  have plain : ∀ argument ∈ (Offers.negated (Offers.condition 0)).args,
      argument.2.directiveKind? = none := List.forall_mem_singleton.mpr rfl
  rcases Traced.outcome_bind_eq_ok.mp (congrArg Traced.outcome (Offers.render_negation 0)) with
    ⟨rendering, evaluated, _⟩
  refine ⟨(render_rewrapped _ 1).1 _ _ (Offers.rewraps_negation kept), ?_⟩
  exact (render_rewrapped _ 2).2 (Offers.negated (Offers.condition 0)) [] [] _ _ _ .it rendering
    rfl plain rfl (Offers.rewraps_condition 2 Kept) evaluated

/-- Under two contexts the condition of a negation loses its parentheses. -/
theorem Renderer.twice_loses_parentheses : ∃ e e', Filter.not (.call Offers.cheap) = .ok e ∧
    Rewraps 2 (fun _ _ => True) itContext e e' ∧
    ((Renderer.standard Offers.schema).render e).outcome = .ok "not (Price eq 1)" ∧
    ((Renderer.standard Offers.schema).render e').outcome = .ok "not Price eq 1" := by
  refine ⟨_, _, Offers.not_cheap, Offers.rewraps_negation trivial, ?_, ?_⟩
  · rw [show Expr.call (Offers.negated (.call Offers.cheap)) = Offers.negation 0 from rfl,
      Offers.render_negation]
    decide
  · rw [Offers.render_negation]
    decide

end ODataRequest
