import ODataRequest.Proofs.Evaluation
import Mathlib.Data.List.Infix
namespace ODataRequest

namespace CallOf

def isForDirective (argument : Argument) : Bool := argument.2.directiveKind?.isSome

def operands (args : List Argument) : List Argument := args.filter fun a => !isForDirective a

def directiveCount (args : List Argument) : Nat := args.countP isForDirective

/-- What may stand where an operand stood: the operand itself, a constant of it in the author's
format, or what stands there with options. -/
inductive Becomes : Expr → Expr → Prop
  | same (e : Expr) : Becomes e e
  | formatted {e : Expr} {v : Value} {type : Option TypeRef} (text : String) :
      Becomes e (.value v type) → Becomes e (.raw text)
  | expanded {e target : Expr} (options : Options) :
      Becomes e target → Becomes e (expandedTarget target options)

/-- The second argument is for the parameter of the first and holds what became of it. -/
def Carries (first second : Argument) : Prop :=
  second.2 = first.2 ∧ Becomes first.1 second.1

inductive Leaves (before after : List Argument) : List Argument → Prop
  | dropped : Leaves before after (before ++ after)
  | formatted {format : Format} {args : List Argument} :
      (before ++ after).mapM (formatArgument format) = .ok args → Leaves before after args
  | expanded {target : Expr} {p : Parameter} (options : Options) :
      before.getLast? = some (target, p) →
      Leaves before after
        (before.dropLast ++ (expandedTarget target options, p) :: after.dropWhile isOption)

/-- Two directives right behind each other that hand-written text is made of. -/
def writtenPair (paths : List (String × Expr)) (write : List (String × String) → String)
    (p q : Parameter) : List Argument :=
  [(.directive (.rawPaths paths), p), (.directive (.rawText write), q)]

/-- What a round does to the arguments. -/
inductive Works (c : Call) : Round → Prop
  | finished : splitDirective c.args = none → Works c .finished
  | written {paths : List (String × Expr)} {write : List (String × String) → String}
      {p q : Parameter} :
      writtenPair paths write p q <:+: c.args → p.directiveKind? = some .rawPaths →
      q.directiveKind? = some .rawText → Works c (.rawText paths write)
  | next {before after : List Argument} {argument : Argument} {c' : Call} :
      splitDirective c.args = some (before, argument, after) → Leaves before after c'.args →
      Works c (.next c')

/-- What working in the directives ends with, and after how many rounds. -/
inductive Ends (renderer : Renderer) : Call → Nat → Traced Expr → Prop
  | finished {c : Call} :
      c.round renderer.schema = .ok .finished → Ends renderer c 0 (pure (.call c))
  | failed {c : Call} {e : Error} :
      c.round renderer.schema = .error e → Ends renderer c 1 (.fail e)
  | written {c : Call} {paths : List (String × Expr)} {write : List (String × String) → String} :
      c.round renderer.schema = .ok (.rawText paths write) →
      Ends renderer c 1 (do
        let texts ← paths.mapM renderer.pathText
        pure (.raw (write texts)))
  | next {c c' : Call} {n : Nat} {result : Traced Expr} :
      c.round renderer.schema = .ok (.next c') → Ends renderer c' n result →
      Ends renderer c (n + 1) result

variable {schema : Schema} {c c' : Call} {args args' before after : List Argument}
  {argument first second : Argument}

section Rounds

theorem splitDirective_first (split : splitDirective args = some (before, argument, after)) :
    (∀ a ∈ before, isForDirective a = false) ∧ isForDirective argument = true := by
  induction args generalizing before with
  | nil => cases split
  | cons head rest ih =>
    unfold splitDirective at split
    split at split
    · rename_i found
      cases split
      exact ⟨by simp, found⟩
    · rename_i plain
      rcases Option.map_eq_some_iff.mp split with ⟨⟨before', argument', after'⟩, inner, same⟩
      cases same
      rcases ih inner with ⟨plains, found⟩
      exact ⟨List.forall_mem_cons.mpr ⟨Bool.eq_false_iff.mpr plain, plains⟩, found⟩

theorem splitDirective_eq_none (split : splitDirective args = none) :
    ∀ a ∈ args, isForDirective a = false := by
  induction args with
  | nil => simp
  | cons head rest ih =>
    unfold splitDirective at split
    split at split
    · cases split
    · rename_i plain
      have later := ih (Option.map_eq_none_iff.mp split)
      exact List.forall_mem_cons.mpr ⟨Bool.eq_false_iff.mpr plain, later⟩

theorem round_works {result : Round} (worked : c.round schema = .ok result) : Works c result := by
  cases round_eq_ok worked with
  | finished split => exact .finished split
  | @rawText before after argument executor paths write split held held' =>
    obtain ⟨given, kind⟩ := directiveOf_held held
    obtain ⟨given', kind'⟩ := directiveOf_held held'
    refine .written ⟨before, after, ?_⟩ kind kind'
    rw [splitDirective_eq split, writtenPair, ← given, ← given']
    simp
  | next split held made =>
    cases made with
    | customName | result => exact .next split .dropped
    | format mapped => exact .next split (.formatted mapped)
    | subQueries expanded | countOption expanded =>
      obtain ⟨target, p, options, last, _, rfl⟩ := expand_next expanded
      exact .next split (.expanded options last)

theorem round_of_split_none (split : splitDirective c.args = none) :
    c.round schema = .ok .finished := by
  rw [round, split]
  rfl

end Rounds

section Operands

theorem isForDirective_of_isOption (option : isOption argument = true) :
    isForDirective argument = true := by
  unfold isOption at option
  unfold isForDirective
  cases kind : argument.2.directiveKind? with
  | none => simp [kind] at option
  | some => rfl

theorem isForDirective_carried (carries : Carries first second) :
    isForDirective second = isForDirective first := by
  rw [isForDirective, carries.1, isForDirective]

theorem Becomes.trans {e target final : Expr} (former : Becomes e target)
    (latter : Becomes target final) : Becomes e final := by
  induction latter with
  | same => exact former
  | formatted text _ ih => exact .formatted text ih
  | expanded options _ ih => exact .expanded options ih

theorem Carries.trans {third : Argument} (former : Carries first second)
    (latter : Carries second third) : Carries first third :=
  ⟨latter.1.trans former.1, former.2.trans latter.2⟩

theorem formatArgument_carries {format : Format}
    (formatted : formatArgument format first = .ok second) : Carries first second := by
  rcases formatArgument_cases formatted with rfl | ⟨v, type, text, constant, _, rfl⟩
  · exact ⟨rfl, .same _⟩
  · have became : Becomes first.1 (.value v type) := constant ▸ .same first.1
    exact ⟨rfl, .formatted text became⟩

theorem carries_mapM {format : Format} (mapped : args.mapM (formatArgument format) = .ok args') :
    List.Forall₂ Carries args args' :=
  (mapM_eq_ok.mp mapped).imp fun _ _ => formatArgument_carries

theorem carries_refl (args : List Argument) : List.Forall₂ Carries args args :=
  List.forall₂_same.mpr fun argument _ => ⟨rfl, .same argument.1⟩

theorem carries_trans {args'' : List Argument} (former : List.Forall₂ Carries args args')
    (latter : List.Forall₂ Carries args' args'') : List.Forall₂ Carries args args'' := by
  induction former generalizing args'' with
  | nil => exact latter
  | cons head _ ih =>
    cases latter with
    | cons head' tail' => exact .cons (head.trans head') (ih tail')

theorem directiveCount_carried (carried : List.Forall₂ Carries args args') :
    directiveCount args' = directiveCount args := by
  induction carried with
  | nil => rfl
  | cons head _ ih =>
    unfold directiveCount at ih ⊢
    rw [List.countP_cons, List.countP_cons, isForDirective_carried head, ih]

theorem operands_carried (carried : List.Forall₂ Carries args args') :
    List.Forall₂ Carries (operands args) (operands args') := by
  induction carried with
  | nil => exact .nil
  | @cons first second rest rest' head _ ih =>
    have kind := isForDirective_carried head
    cases found : isForDirective first with
    | true =>
      rw [found] at kind
      simpa [operands, found, kind] using ih
    | false =>
      rw [found] at kind
      simpa [operands, found, kind] using And.intro head ih

theorem operands_append (args args' : List Argument) :
    operands (args ++ args') = operands args ++ operands args' := List.filter_append _ _

theorem operands_of_plain (plain : ∀ a ∈ args, isForDirective a = false) : operands args = args :=
  List.filter_eq_self.mpr fun a member => by rw [plain a member]; rfl

theorem operands_dropWhile (after : List Argument) :
    operands (after.dropWhile isOption) = operands after := by
  induction after with
  | nil => rfl
  | cons head rest ih =>
    by_cases option : isOption head = true
    · rw [List.dropWhile_cons_of_pos option, ih]
      simp [operands, isForDirective_of_isOption option]
    · rw [List.dropWhile_cons_of_neg option]

theorem carries_expanded {target : Expr} {p : Parameter} (after : List Argument)
    (options : Options) (last : before.getLast? = some (target, p)) :
    List.Forall₂ Carries (before ++ after.dropWhile isOption)
      (before.dropLast ++ (expandedTarget target options, p) :: after.dropWhile isOption) := by
  have whole : before.dropLast ++ [(target, p)] = before := List.dropLast_append_getLast? _ last
  have expanded : Carries (target, p) (expandedTarget target options, p) :=
    ⟨rfl, .expanded options (.same target)⟩
  nth_rewrite 1 [← whole]
  rw [List.append_assoc, List.singleton_append]
  exact List.rel_append (carries_refl _) (.cons expanded (carries_refl _))

theorem leaves_operands (split : splitDirective args = some (before, argument, after))
    (leaves : Leaves before after args') :
    directiveCount args' < directiveCount args ∧
      List.Forall₂ Carries (operands args) (operands args') := by
  rcases splitDirective_first split with ⟨plain, found⟩
  have counted : directiveCount args = directiveCount (before ++ after) + 1 := by
    rw [splitDirective_eq split]
    simp only [directiveCount, List.countP_append, List.countP_cons, found, if_true]
    omega
  have kept : operands args = operands (before ++ after) := by
    rw [splitDirective_eq split]
    simp [operands, found]
  rw [counted, kept]
  cases leaves with
  | dropped => exact ⟨Nat.lt_succ_self _, carries_refl _⟩
  | formatted mapped =>
    have carried := carries_mapM mapped
    exact ⟨by rw [directiveCount_carried carried]; omega, operands_carried carried⟩
  | expanded options last =>
    have carried := carries_expanded after options last
    have fewer : directiveCount (after.dropWhile isOption) ≤ directiveCount after :=
      (List.dropWhile_sublist isOption).countP_le
    constructor
    · rw [directiveCount_carried carried]
      simp only [directiveCount, List.countP_append] at fewer ⊢
      omega
    · rw [operands_append, ← operands_dropWhile after, ← operands_append]
      exact operands_carried carried

end Operands

section Pairs

theorem infix_of_append {α : Type} {a b : α} {front back : List α} (absent : a ∉ front)
    (present : [a, b] <:+: front ++ back) : [a, b] <:+: back := by
  induction front with
  | nil => exact present
  | cons head rest ih =>
    rcases List.infix_cons_iff.mp present with start | inside
    · cases List.prefix_cons_iff.mp start with
      | inl none => cases none
      | inr some =>
        rcases some with ⟨_, same, _⟩
        cases same
        exact absurd List.mem_cons_self absent
    · exact ih (fun member => absent (List.mem_cons_of_mem _ member)) inside

theorem infix_of_forall₂ {α β : Type} {R : α → β → Prop} {items : List α} {results : List β}
    {a b : α} {x y : β} (related : List.Forall₂ R items results)
    (origin : ∀ i, R i x → i = a) (origin' : ∀ i, R i y → i = b)
    (present : [x, y] <:+: results) : [a, b] <:+: items := by
  induction related with
  | nil => cases List.infix_nil.mp present
  | @cons item result items results head tail ih =>
    rcases List.infix_cons_iff.mp present with start | inside
    · rcases List.cons_prefix_cons.mp start with ⟨same, behind⟩
      cases tail with
      | nil => cases List.prefix_nil.mp behind
      | @cons item' result' items' results' head' tail' =>
        have same' : y = result' := (List.cons_prefix_cons.mp behind).1
        rw [← same] at head
        rw [← same'] at head'
        rw [origin item head, origin' item' head']
        exact ⟨[], items', rfl⟩
    · exact (ih inside).trans (List.suffix_cons item items).isInfix

theorem formatArgument_directive {format : Format} {d : Directive} {p : Parameter}
    (formatted : formatArgument format argument = .ok (.directive d, p)) :
    argument = (.directive d, p) := by
  rcases formatArgument_cases formatted with same | ⟨v, type, text, _, _, same⟩
  · exact same.symm
  · cases same

variable {paths : List (String × Expr)} {write : List (String × String) → String}
  {p q : Parameter}

/-- Rounds bring no two directives together that were apart. -/
theorem leaves_pair (split : splitDirective args = some (before, argument, after))
    (leaves : Leaves before after args') (kind : p.directiveKind? = some .rawPaths)
    (present : writtenPair paths write p q <:+: args') :
    writtenPair paths write p q <:+: args := by
  rcases splitDirective_first split with ⟨plain, _⟩
  have absent : ∀ {front : List Argument}, (∀ a ∈ front, isForDirective a = false) →
      (Expr.directive (.rawPaths paths), p) ∉ front := by
    intro front plains member
    have operand := plains _ member
    simp [isForDirective, kind] at operand
  have behind : after <:+: args := by
    rw [splitDirective_eq split]
    exact ⟨before ++ [argument], [], by simp⟩
  -- The first directive of the pair is none of the operands in front.
  cases leaves with
  | dropped => exact (infix_of_append (absent plain) present).trans behind
  | formatted mapped =>
    have unformatted : writtenPair paths write p q <:+: before ++ after :=
      infix_of_forall₂ (mapM_eq_ok.mp mapped) (fun _ => formatArgument_directive)
        (fun _ => formatArgument_directive) present
    exact (infix_of_append (absent plain) unformatted).trans behind
  | @expanded target p' options last =>
    have operand : isForDirective (target, p') = false := plain _ (List.mem_of_getLast? last)
    have plains : ∀ a ∈ before.dropLast ++ [(expandedTarget target options, p')],
        isForDirective a = false := by
      intro a member
      rcases List.mem_append.mp member with member | member
      · exact plain a (List.dropLast_subset _ member)
      · cases List.mem_singleton.mp member
        exact operand
    rw [List.append_cons] at present
    have inside := infix_of_append (absent plains) present
    exact (inside.trans (List.dropWhile_suffix isOption).isInfix).trans behind

end Pairs

theorem reduce_operands (reduced : c.reduce schema = .ok (.call c')) :
    (∀ argument ∈ c'.args, isForDirective argument = false) ∧
      List.Forall₂ Carries (operands c.args) c'.args := by
  fun_induction reduce schema c with
  | case1 => cases reduced
  | case2 c step =>
    cases reduced
    cases round_works step with
    | finished split =>
      have plain := splitDirective_eq_none split
      refine ⟨plain, ?_⟩
      rw [operands_of_plain plain]
      exact carries_refl _
  | case3 => cases reduced
  | case4 c next step ih =>
    rcases ih reduced with ⟨plain, carried⟩
    cases round_works step with
    | next split leaves =>
      exact ⟨plain, carries_trans (leaves_operands split leaves).2 carried⟩

/-- Hand-written text comes from two directives of the call, one right behind the other. -/
theorem reduce_pair {paths : List (String × Expr)} {write : List (String × String) → String}
    (reduced : c.reduce schema = .ok (.rawText paths write)) :
    ∃ p q, writtenPair paths write p q <:+: c.args ∧ p.directiveKind? = some .rawPaths ∧
      q.directiveKind? = some .rawText := by
  fun_induction reduce schema c with
  | case1 => cases reduced
  | case2 => cases reduced
  | case3 c paths' write' step =>
    cases reduced
    cases round_works step with
    | written present kind kind' => exact ⟨_, _, present, kind, kind'⟩
  | case4 c next step ih =>
    rcases ih reduced with ⟨p, q, present, kind, kind'⟩
    cases round_works step with
    | next split leaves => exact ⟨p, q, leaves_pair split leaves kind present, kind, kind'⟩

end CallOf

namespace Renderer

open CallOf

theorem rewritten_round (renderer : Renderer) (c : Call) :
    renderer.rewritten c = (do
      match ← .ofExcept (c.round renderer.schema) with
      | .finished => pure (.call c)
      | .rawText paths write =>
        let texts ← paths.mapM renderer.pathText
        pure (.raw (write texts))
      | .next c' => renderer.rewritten c') := by
  unfold rewritten
  rw [reduce_round]
  cases c.round renderer.schema with
  | error e => rfl
  | ok result => cases result <;> rfl

theorem ends_rewritten (renderer : Renderer) (c : Call) :
    ∃ n ≤ directiveCount c.args, Ends renderer c n (renderer.rewritten c) := by
  have positive {c : Call} (started : c.round renderer.schema ≠ .ok .finished) :
      1 ≤ directiveCount c.args := by
    cases split : splitDirective c.args with
    | none => exact absurd (round_of_split_none split) started
    | some parts =>
      rcases parts with ⟨before, argument, after⟩
      rw [splitDirective_eq split, directiveCount, List.one_le_countP_iff]
      exact ⟨argument, by simp, (splitDirective_first split).2⟩
  fun_induction reduce renderer.schema c with
  | case1 c e step =>
    rw [rewritten_round, step]
    exact ⟨1, positive (by simp [step]), .failed step⟩
  | case2 c step =>
    rw [rewritten_round, step]
    exact ⟨0, Nat.zero_le _, .finished step⟩
  | case3 c paths write step =>
    rw [rewritten_round, step]
    exact ⟨1, positive (by simp [step]), .written step⟩
  | case4 c next step ih =>
    rcases ih with ⟨n, bound, ends⟩
    rw [rewritten_round, step]
    cases round_works step with
    | next split leaves =>
      have fewer := (leaves_operands split leaves).1
      exact ⟨n + 1, by omega, .next step ends⟩

/-- Working in the directives of a call ends after at most one round for each. It leaves the
operands alone, each in its place, or a raw constant that two neighbouring directives of the call
have written. -/
theorem rewritten_ends (renderer : Renderer) (c : Call) :
    (∃ n ≤ directiveCount c.args, Ends renderer c n (renderer.rewritten c)) ∧
      ∀ e, (renderer.rewritten c).outcome = .ok e →
        (∃ c', e = .call c' ∧ (∀ argument ∈ c'.args, argument.2.directiveKind? = none) ∧
          List.Forall₂ Carries (operands c.args) c'.args) ∨
        ∃ paths write p q texts, e = .raw (write texts) ∧
          (paths.mapM renderer.pathText).outcome = .ok texts ∧
          [(.directive (.rawPaths paths), p), (.directive (.rawText write), q)] <:+: c.args ∧
          p.directiveKind? = some .rawPaths ∧ q.directiveKind? = some .rawText := by
  refine ⟨ends_rewritten renderer c, ?_⟩
  intro e finished
  unfold rewritten at finished
  split at finished
  · cases finished
  · rename_i c' reduced
    cases finished
    rcases reduce_operands reduced with ⟨plain, carried⟩
    refine .inl ⟨c', rfl, ?_, carried⟩
    intro argument member
    simpa [isForDirective] using plain argument member
  · rename_i paths write reduced
    rcases Traced.outcome_bind_eq_ok.mp finished with ⟨texts, written, same⟩
    cases same
    rcases reduce_pair reduced with ⟨p, q, present, kind, kind'⟩
    exact .inr ⟨paths, write, p, q, texts, rfl, written, present, kind, kind'⟩

end Renderer

namespace Shop

def orders : Expr := .member none "Orders" (.collection (.named "Shop" "Order"))

def target : Parameter := .operand "target" .any

def counted : Call where
  receiver := none
  args := [
    (orders, target),
    (.directive .countOption, .directive "count" .countOption "the number of entities"),
    (.directive (.subQueries fun _ _ => .ok []), .directive "options" .subQueries "options")]
  signature := .declared "expand" .expand [target] (.type .raw) .plain
  bindings := .empty

def expanded : Call where
  receiver := none
  args := [(CallOf.expandedTarget orders
    [("$count", .inContext (.named (.raw "true") (.ofType "$count" .boolean)) itContext)], target)]
  signature := counted.signatureWithout counted.args.tail
  bindings := .empty

theorem rewritten_counted :
    ((Renderer.standard .empty).rewritten counted).outcome = .ok (.call expanded) := by
  have step : counted.round Schema.empty = .ok (.next expanded) := rfl
  have reduced : counted.reduce Schema.empty = .ok (.call expanded) := by
    rw [CallOf.reduce_round, step]
    exact CallOf.reduce_of_plain (List.forall_mem_singleton.mpr rfl)
  rw [Renderer.rewritten, Renderer.standard, reduced]
  rfl

end Shop

/-- Both directives of the expansion are worked in at once. -/
theorem Renderer.rewritten_ends_counted :
    ((standard .empty).rewritten Shop.counted).outcome = .ok (.call Shop.expanded) ∧
      (∃ n ≤ 2, CallOf.Ends (standard .empty) Shop.counted n
        ((standard .empty).rewritten Shop.counted)) ∧
      List.Forall₂ CallOf.Carries [(Shop.orders, Shop.target)] Shop.expanded.args := by
  rcases rewritten_ends (standard .empty) Shop.counted with ⟨rounds, results⟩
  refine ⟨Shop.rewritten_counted, rounds, ?_⟩
  rcases results _ Shop.rewritten_counted with ⟨_, same, _, carried⟩ | ⟨_, _, _, _, _, same, _⟩
  · cases same
    exact carried
  · cases same

end ODataRequest
