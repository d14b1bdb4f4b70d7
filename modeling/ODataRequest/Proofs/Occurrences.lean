import ODataRequest.Aliases
import ODataRequest.Proofs.Evaluation
import Mathlib.Data.List.Basic
namespace ODataRequest

/-!
The aliases that the text of an expression holds. Rendering meets exactly these: working in the
directives of a call loses none of them, and nothing else is met.
-/

namespace CallOf

/-- A clause that a sub-query function given to a call returns. The function is among the
options behind the argument that it expands. -/
inductive SubQuery (schema : Schema) (c : Call) (e : Expr) : Prop
  | built {before options after : List Argument} {target : Expr} {q p : Parameter}
      {build : Schema → TypeRef → Except Error (List Expr)} {type element : TypeRef}
      {queries : List Expr} :
      c.args = before ++ (target, q) :: (options ++ (.directive (.subQueries build), p) :: after) →
      (∀ argument ∈ before ++ [(target, q)], argument.2.directiveKind? = none) →
      (∀ option ∈ options, isOption option = true) → p.directiveKind? = some .subQueries →
      target.concreteType? = some type → expandedType type = .ok element →
      build schema element = .ok queries → e ∈ queries → SubQuery schema c e

end CallOf

open CallOf

/-- The alias is written where the expression is rendered. A call writes what its arguments and
its sub-queries write; what is made of them on the way adds nothing. -/
inductive Writes (schema : Schema) : Expr → Alias → Prop
  | aliased {param : Alias} {type : Option TypeRef} : Writes schema (.aliased param type) param
  | parent {e : Expr} {name : String} {result : Result} {param : Alias} :
      Writes schema e param → Writes schema (.property (some e) name result) param
  | argument {c c' : Call} {argument : Argument} {param : Alias} :
      c.reduce schema = .ok (.call c') → argument ∈ c.args → Writes schema argument.1 param →
      Writes schema (.call c) param
  | subQuery {c c' : Call} {e : Expr} {param : Alias} :
      c.reduce schema = .ok (.call c') → c.SubQuery schema e → Writes schema e param →
      Writes schema (.call c) param
  | receiver {c c' : Call} {e : Expr} {param : Alias} :
      c.reduce schema = .ok (.call c') → c'.receiver = some e → Writes schema e param →
      Writes schema (.call c) param
  | reduced {c c' : Call} {argument : Argument} {param : Alias} :
      c.reduce schema = .ok (.call c') → argument ∈ c'.args → Writes schema argument.1 param →
      Writes schema (.call c) param
  | rawPath {c : Call} {paths : List (String × Expr)} {write : List (String × String) → String}
      {path : String × Expr} {param : Alias} :
      c.reduce schema = .ok (.rawText paths write) → path ∈ paths → Writes schema path.2 param →
      Writes schema (.call c) param
  | inContext {e : Expr} {context : String} {param : Alias} :
      Writes schema e param → Writes schema (.inContext e context) param
  | named {e : Expr} {symbol : RootSymbol} {param : Alias} :
      Writes schema e param → Writes schema (.named e symbol) param
  | assembled {parts : List Part} {result : Result} {e : Expr} {param : Alias} :
      PartOf.expr e ∈ parts → Writes schema e param → Writes schema (.assembled parts result) param

namespace CallOf

variable {schema : Schema} {c c' : Call} {param : Alias}

theorem not_writes_value {v : Value} {type : Option TypeRef} :
    ¬Writes schema (.value v type) param := by
  intro writes
  cases writes

theorem not_writes_directive {d : Directive} : ¬Writes schema (.directive d) param := by
  intro writes
  cases writes

theorem formatArgument_keeps {format : Format} {a b : Argument}
    (formatted : formatArgument format a = .ok b) (writes : Writes schema a.1 param) :
    Writes schema b.1 param := by
  rcases formatArgument_cases formatted with rfl | ⟨v, type, text, constant, _, _⟩
  · exact writes
  · exact absurd (constant ▸ writes) not_writes_value

theorem expandedTarget_keeps {target : Expr} {options : Options}
    (writes : Writes schema target param) : Writes schema (expandedTarget target options) param :=
  .assembled List.mem_cons_self writes

theorem mem_optionParts {options : Options} {option : String × Expr} {opening : String}
    (member : option ∈ options) : PartOf.expr option.2 ∈ optionParts opening options := by
  induction options generalizing opening with
  | nil => cases member
  | cons head rest ih =>
    unfold optionParts
    rcases List.mem_cons.mp member with rfl | member
    · simp
    · have found : PartOf.expr option.2 ∈ optionParts ";" rest := ih member
      simp [found]

theorem expandedTarget_option {target : Expr} {options : Options} {option : String × Expr}
    (member : option ∈ options) (writes : Writes schema option.2 param) :
    Writes schema (expandedTarget target options) param := by
  have filled : options.isEmpty = false := by
    cases options with
    | nil => cases member
    | cons => rfl
  have part : PartOf.expr option.2 ∈ optionParts "(" options := mem_optionParts member
  apply Writes.assembled (e := option.2) _ writes
  simp [filled, part]

theorem addOption_extends {options options' : Options} {key : String} {e : Expr} {type : TypeRef}
    (added : addOption options key e type = .ok options') :
    options' = options ++ [(key, .inContext (.named e (.ofType key type)) itContext)] := by
  unfold addOption at added
  split at added
  · cases added
  · cases added
    rfl

theorem addClause_extends {options options' : Options} {e : Expr}
    (added : addClause options e = .ok options') :
    ∃ key symbol, options' = options ++ [(key, .inContext (.named e symbol) itContext)] := by
  unfold addClause at added
  rcases bind_eq_ok.mp added with ⟨key, _, added⟩
  exact ⟨key, _, addOption_extends added⟩

theorem addClauses_extend {queries : List Expr} {options options' : Options}
    (added : queries.foldlM addClause options = .ok options') : options ⊆ options' := by
  apply foldlM_invariant (fun o : Options => options ⊆ o) _ (List.Subset.refl _) added
  intro o e o' _ included stepped
  rcases addClause_extends stepped with ⟨key, symbol, same⟩
  rw [same]
  exact List.subset_append_of_subset_left _ included

theorem addOptions_directive {target : Expr} {options options' : Options} {argument : Argument}
    (added : c.addOptions schema target options argument = .ok options') :
    ∃ d, argument.1 = .directive d := by
  rcases addOptions_cases added with ⟨d, held, _⟩
  exact ⟨d, directiveOf_eq held⟩

theorem addOptions_extend {target : Expr} {options options' : Options} {argument : Argument}
    (added : c.addOptions schema target options argument = .ok options') :
    options ⊆ options' := by
  rcases addOptions_cases added with ⟨d, _, gathers⟩
  cases gathers with
  | countOption _ added =>
    rw [addOption_extends added]
    exact List.subset_append_left _ _
  | subQueries _ _ _ added => exact addClauses_extend added

theorem addOptions_subQuery {target : Expr} {options options' : Options} {p : Parameter}
    {build : Schema → TypeRef → Except Error (List Expr)} {type element : TypeRef}
    {queries : List Expr} {e : Expr}
    (added : c.addOptions schema target options (.directive (.subQueries build), p) = .ok options')
    (typed : target.concreteType? = some type) (expanded : expandedType type = .ok element)
    (built : build schema element = .ok queries) (member : e ∈ queries)
    (writes : Writes schema e param) :
    ∃ option ∈ options', Writes schema option.2 param := by
  rcases addOptions_cases added with ⟨d, held, gathers⟩
  cases directiveOf_eq held
  cases gathers with | subQueries typed' expanded' built' added =>
  rw [typed] at typed'
  cases typed'
  rw [expanded] at expanded'
  cases expanded'
  rw [built] at built'
  cases built'
  rcases List.append_of_mem member with ⟨before, after, split⟩
  rw [split] at added
  rcases foldlM_split added with ⟨o, o', _, stepped, finished⟩
  rcases addClause_extends stepped with ⟨key, symbol, same⟩
  refine ⟨(key, .inContext (.named e symbol) itContext), ?_, .inContext (.named writes)⟩
  apply addClauses_extend finished
  simp [same]

theorem expand_keeps {before after : List Argument} {first : Argument}
    (expanded : c.expand schema before first after = .ok (.next c')) {argument : Argument}
    (member : argument ∈ before ++ after) (writes : Writes schema argument.1 param) :
    ∃ kept ∈ c'.args, Writes schema kept.1 param := by
  rcases expand_next expanded with ⟨target, p, options, last, gathered, rfl⟩
  dsimp only
  have whole : before.dropLast ++ [(target, p)] = before := List.dropLast_append_getLast? _ last
  rcases List.mem_append.mp member with member | member
  · rw [← whole] at member
    rcases List.mem_append.mp member with member | member
    · exact ⟨argument, List.mem_append_left _ member, writes⟩
    · cases List.mem_singleton.mp member
      refine ⟨(expandedTarget target options, p), ?_, expandedTarget_keeps writes⟩
      exact List.mem_append_right _ List.mem_cons_self
  · rw [← List.takeWhile_append_dropWhile (p := isOption) (l := after)] at member
    rcases List.mem_append.mp member with member | member
    · rcases List.append_of_mem (List.mem_cons_of_mem first member) with ⟨front, back, split⟩
      rw [split] at gathered
      rcases foldlM_split gathered with ⟨_, _, _, stepped, _⟩
      rcases addOptions_directive stepped with ⟨d, same⟩
      rw [same] at writes
      exact absurd writes not_writes_directive
    · exact ⟨argument, List.mem_append_right _ (List.mem_cons_of_mem _ member), writes⟩

/-- A round drops no alias: it takes away a directive, which writes none itself. -/
theorem round_keeps (next : c.round schema = .ok (.next c')) {argument : Argument}
    (member : argument ∈ c.args) (writes : Writes schema argument.1 param) :
    ∃ kept ∈ c'.args, Writes schema kept.1 param := by
  cases round_eq_ok next with
  | @next before after first d _ split held worked =>
    have other : argument ∈ before ++ after := by
      rw [splitDirective_eq split] at member
      rcases List.mem_append.mp member with member | member
      · exact List.mem_append_left _ member
      · rcases List.mem_cons.mp member with rfl | member
        · rw [directiveOf_eq held] at writes
          exact absurd writes not_writes_directive
        · exact List.mem_append_right _ member
    cases worked with
    | customName | result => exact ⟨argument, other, writes⟩
    | format mapped =>
      rcases exists_of_forall₂ (mapM_eq_ok.mp mapped) other with ⟨kept, present, formatted⟩
      exact ⟨kept, present, formatArgument_keeps formatted writes⟩
    | subQueries expanded | countOption expanded => exact expand_keeps expanded other writes

theorem reduce_keeps (reduced : c.reduce schema = .ok (.call c')) {argument : Argument}
    (member : argument ∈ c.args) (writes : Writes schema argument.1 param) :
    ∃ kept ∈ c'.args, Writes schema kept.1 param := by
  fun_induction reduce schema c generalizing argument with
  | case1 => cases reduced
  | case2 =>
    cases reduced
    exact ⟨argument, member, writes⟩
  | case3 => cases reduced
  | case4 c next step ih =>
    rcases round_keeps step member writes with ⟨kept, present, writes⟩
    exact ih reduced present writes

theorem splitDirective_of_plain {before after : List Argument} {first : Argument}
    (plain : ∀ argument ∈ before, argument.2.directiveKind? = none)
    (kind : first.2.directiveKind?.isSome = true) :
    splitDirective (before ++ first :: after) = some (before, first, after) := by
  induction before with
  | nil =>
    rw [List.nil_append, splitDirective, if_pos kind]
  | cons head rest ih =>
    have head_plain : head.2.directiveKind? = none := plain head List.mem_cons_self
    have rest_split : splitDirective (rest ++ first :: after) = some (rest, first, after) :=
      ih fun argument member => plain argument (List.mem_cons_of_mem _ member)
    rw [List.cons_append, splitDirective, head_plain, rest_split]
    rfl

theorem isOption_isSome {option : Argument} (given : isOption option = true) :
    option.2.directiveKind?.isSome = true := by
  unfold isOption at given
  cases kind : option.2.directiveKind? with
  | none =>
    rw [kind] at given
    cases given
  | some => rfl

theorem round_of_option {before after : List Argument} {first : Argument}
    (found : splitDirective c.args = some (before, first, after)) (option : isOption first = true) :
    c.round schema = (do
      let _ ← c.directiveOf first
      c.expand schema before first after) := by
  rw [round, found]
  dsimp only
  cases held : c.directiveOf first with
  | error e => rfl
  | ok d =>
    have kind : first.2.directiveKind? = some d.kind := (directiveOf_held held).2
    unfold isOption at option
    rw [kind] at option
    cases d with
    | subQueries build => rfl
    | countOption => rfl
    | _ => simp [DirectiveOf.kind] at option

theorem mem_given {options after rest : List Argument} {first d : Argument}
    (behind : options ++ d :: after = first :: rest)
    (given : ∀ option ∈ options, isOption option = true) (option : isOption d = true) :
    d ∈ first :: rest.takeWhile isOption := by
  cases options with
  | nil =>
    cases behind
    exact List.mem_cons_self
  | cons head tail =>
    cases behind
    apply List.mem_cons_of_mem
    change d ∈ (tail ++ d :: after).takeWhile isOption
    rw [List.takeWhile_append_of_pos fun a member => given a (List.mem_cons_of_mem _ member)]
    apply List.mem_append_right
    rw [List.takeWhile_cons_of_pos option]
    exact List.mem_cons_self

theorem expand_subQuery {before after : List Argument} {first : Argument} {target : Expr}
    {q p : Parameter} {build : Schema → TypeRef → Except Error (List Expr)} {type element : TypeRef}
    {queries : List Expr} {e : Expr}
    (next : c.expand schema (before ++ [(target, q)]) first after = .ok (.next c'))
    (present : (.directive (.subQueries build), p) ∈ first :: after.takeWhile isOption)
    (typed : target.concreteType? = some type) (expanded : expandedType type = .ok element)
    (built : build schema element = .ok queries) (member : e ∈ queries)
    (writes : Writes schema e param) : ∃ kept ∈ c'.args, Writes schema kept.1 param := by
  rcases expand_next next with ⟨target', q', gatheredOptions, last, gathered, rfl⟩
  rw [List.getLast?_concat] at last
  cases last
  rcases List.append_of_mem present with ⟨front, back, split⟩
  rw [split] at gathered
  rcases foldlM_split gathered with ⟨_, some_options, _, added, finished⟩
  rcases addOptions_subQuery added typed expanded built member writes with ⟨found, held, writes⟩
  have kept : some_options ⊆ gatheredOptions := by
    apply foldlM_invariant (fun o : Options => some_options ⊆ o) _ (List.Subset.refl _) finished
    intro o a o' _ included stepped
    exact List.Subset.trans included (addOptions_extend stepped)
  refine ⟨(expandedTarget target gatheredOptions, q), ?_, expandedTarget_option (kept held) writes⟩
  exact List.mem_append_right _ List.mem_cons_self

theorem reduce_subQuery (reduced : c.reduce schema = .ok (.call c')) {e : Expr}
    (subQuery : c.SubQuery schema e) (writes : Writes schema e param) :
    ∃ kept ∈ c'.args, Writes schema kept.1 param := by
  rcases subQuery with ⟨args, plain, given, kind, typed, expanded, built, member⟩
  rename_i before options after target q p build type element queries
  have option : isOption (.directive (.subQueries build), p) = true := by
    rw [isOption, kind]
    rfl
  rcases filled : options ++ (.directive (.subQueries build), p) :: after with _ | ⟨first, rest⟩
  · simp at filled
  · have first_option : isOption first = true := by
      cases options with
      | nil =>
        cases filled
        exact option
      | cons head tail =>
        cases filled
        exact given _ List.mem_cons_self
    have found : splitDirective c.args = some (before ++ [(target, q)], first, rest) := by
      rw [args, filled, List.append_cons]
      exact splitDirective_of_plain plain (isOption_isSome first_option)
    have present := mem_given filled given option
    rw [reduce_round, round_of_option found first_option] at reduced
    rcases bind_eq_ok.mp reduced with ⟨r, step, reduced⟩
    rcases bind_eq_ok.mp step with ⟨_, _, expansion⟩
    rcases expand_not_finished expansion with ⟨c₁, rfl⟩
    rcases expand_subQuery expansion present typed expanded built member writes with
      ⟨kept, present, writes⟩
    exact reduce_keeps reduced present writes

end CallOf
namespace Renderer

open Traced

variable {renderer : Renderer} {scope : Scope} {param : Alias}

theorem operand_met {c : Call} {argument : Argument} {text : Option RootSymbol × String}
    (written : (renderer.operand c scope argument).outcome = .ok text) :
    (∃ rendering, (renderer.evaluate argument.1 scope.atTop).outcome = .ok rendering) ∧
      (renderer.operand c scope argument).met = (renderer.evaluate argument.1 scope.atTop).met := by
  unfold operand at written ⊢
  split at written
  · cases written
  · rename_i plain
    rw [if_neg plain]
    rcases outcome_bind_eq_ok.mp written with ⟨rendering, evaluated, _⟩
    exact ⟨⟨rendering, evaluated⟩, met_bind_pure _ _⟩

theorem receiver_evaluated {c : Call} {e : Expr} {rendering : Rendering}
    (written : (renderer.receiverRendering c scope).outcome = .ok rendering)
    (present : c.receiver = some e) :
    (renderer.evaluate e scope.nested).outcome = .ok rendering := by
  unfold receiverRendering at written
  rw [present] at written
  exact written

theorem mem_met_call (param : Alias) {c c' : Call} {rendering : Rendering}
    (reduced : c.reduce renderer.schema = .ok (.call c'))
    (evaluated : (renderer.evaluate (.call c) scope).outcome = .ok rendering) :
    (∀ e, c'.receiver = some e → ∃ r, (renderer.evaluate e scope.nested).outcome = .ok r) ∧
    (∀ argument ∈ c'.args, ∃ r, (renderer.evaluate argument.1 scope.atTop).outcome = .ok r) ∧
    (param ∈ (renderer.evaluate (.call c) scope).met ↔
      (∃ e, c'.receiver = some e ∧ param ∈ (renderer.evaluate e scope.nested).met) ∨
      ∃ argument ∈ c'.args, param ∈ (renderer.evaluate argument.1 scope.atTop).met) := by
  rw [evaluate_call reduced] at evaluated ⊢
  rcases outcome_bind_eq_ok.mp evaluated with ⟨_, checked, evaluated⟩
  rcases outcome_bind_eq_ok.mp evaluated with ⟨receiver, receiver_written, evaluated⟩
  rcases outcome_bind_eq_ok.mp evaluated with ⟨operands, operands_written, _⟩
  have each : ∀ argument ∈ c'.args,
      (∃ r, (renderer.evaluate argument.1 scope.atTop).outcome = .ok r) ∧
        (renderer.operand c' scope argument).met =
          (renderer.evaluate argument.1 scope.atTop).met := by
    intro argument member
    rcases outcome_of_mapM operands_written member with ⟨text, written⟩
    exact operand_met written
  have operands_met : param ∈ (c'.args.mapM (renderer.operand c' scope)).met ↔
      ∃ argument ∈ c'.args, param ∈ (renderer.evaluate argument.1 scope.atTop).met := by
    rw [mem_met_mapM_iff operands_written]
    constructor
    · rintro ⟨argument, member, met⟩
      exact ⟨argument, member, (each argument member).2 ▸ met⟩
    · rintro ⟨argument, member, met⟩
      exact ⟨argument, member, (each argument member).2 ▸ met⟩
  refine ⟨fun e present => ⟨receiver, receiver_evaluated receiver_written present⟩,
    fun argument member => (each argument member).1, ?_⟩
  rw [mem_met_bind_iff]
  simp only [checked, mem_met_bind_iff, receiver_written, mem_met_receiverRendering, met_bind_pure,
    operands_met, Except.ok.injEq, exists_eq_left', not_mem_met_ofExcept, false_or, true_and,
    exists_const]

theorem mem_met_rawText (param : Alias) {c : Call} {paths : List (String × Expr)}
    {write : List (String × String) → String} {rendering : Rendering}
    (reduced : c.reduce renderer.schema = .ok (.rawText paths write))
    (evaluated : (renderer.evaluate (.call c) scope).outcome = .ok rendering) :
    (∀ path ∈ paths, ∃ r, (renderer.evaluate path.2 .it).outcome = .ok r) ∧
    (param ∈ (renderer.evaluate (.call c) scope).met ↔
      ∃ path ∈ paths, param ∈ (renderer.evaluate path.2 .it).met) := by
  rw [evaluate_rawText reduced] at evaluated ⊢
  rcases outcome_bind_eq_ok.mp evaluated with ⟨texts, written, finished⟩
  constructor
  · intro path member
    rcases outcome_of_mapM written member with ⟨text, written⟩
    rcases outcome_bind_eq_ok.mp written with ⟨r, evaluated, _⟩
    exact ⟨r, evaluated⟩
  · simp only [mem_met_bind_iff, written, mem_met_mapM_iff written, pathText, met_bind_pure,
      not_mem_met_ofExcept, and_false, exists_false, or_false]

theorem writes_call_iff {schema : Schema} {c c' : Call}
    (reduced : c.reduce schema = .ok (.call c')) :
    Writes schema (.call c) param ↔
      (∃ e, c'.receiver = some e ∧ Writes schema e param) ∨
      ∃ argument ∈ c'.args, Writes schema argument.1 param := by
  constructor
  · intro writes
    cases writes with
    | argument reduced' member writes =>
      rw [reduced] at reduced'
      cases reduced'
      exact .inr (reduce_keeps reduced member writes)
    | subQuery reduced' subQuery writes =>
      rw [reduced] at reduced'
      cases reduced'
      exact .inr (reduce_subQuery reduced subQuery writes)
    | receiver reduced' present writes =>
      rw [reduced] at reduced'
      cases reduced'
      exact .inl ⟨_, present, writes⟩
    | reduced reduced' member writes =>
      rw [reduced] at reduced'
      cases reduced'
      exact .inr ⟨_, member, writes⟩
    | rawPath reduced' =>
      rw [reduced] at reduced'
      cases reduced'
  · rintro (⟨e, present, writes⟩ | ⟨argument, member, writes⟩)
    · exact .receiver reduced present writes
    · exact .reduced reduced member writes

theorem writes_rawText_iff {schema : Schema} {c : Call} {paths : List (String × Expr)}
    {write : List (String × String) → String}
    (reduced : c.reduce schema = .ok (.rawText paths write)) :
    Writes schema (.call c) param ↔ ∃ path ∈ paths, Writes schema path.2 param := by
  constructor
  · intro writes
    cases writes with
    | rawPath reduced' member writes =>
      rw [reduced] at reduced'
      cases reduced'
      exact ⟨_, member, writes⟩
    | argument reduced' | subQuery reduced' | receiver reduced' | reduced reduced' =>
      rw [reduced] at reduced'
      cases reduced'
  · rintro ⟨path, member, writes⟩
    exact .rawPath reduced member writes

/-- In every scope that it can be rendered in, an expression meets the aliases that it writes. -/
def MeetsWritten (renderer : Renderer) (e : Expr) : Prop :=
  ∀ {scope rendering}, (renderer.evaluate e scope).outcome = .ok rendering →
    ∀ param, param ∈ (renderer.evaluate e scope).met ↔ Writes renderer.schema e param

section Nodes

variable {rendering : Rendering} {parent inner : Expr}

theorem mem_met_member {name : String} {type : TypeRef} (ih : MeetsWritten renderer parent)
    (evaluated : (renderer.evaluate (.member (some parent) name type) scope).outcome =
      .ok rendering) :
    param ∈ (renderer.evaluate (.member (some parent) name type) scope).met ↔
      Writes renderer.schema (.member (some parent) name type) param := by
  rw [evaluate_member] at evaluated ⊢
  rcases outcome_bind_eq_ok.mp evaluated with ⟨path, evaluated, _⟩
  rw [met_bind_pure, ih evaluated]
  constructor
  · exact .parent
  · intro writes
    cases writes
    assumption

theorem mem_met_reduced {c c' : Call} (reduced : c.reduce renderer.schema = .ok (.call c'))
    (ih : ∀ e, e.Precedes (.call c) → MeetsWritten renderer e)
    (evaluated : (renderer.evaluate (.call c) scope).outcome = .ok rendering) :
    param ∈ (renderer.evaluate (.call c) scope).met ↔
      Writes renderer.schema (.call c) param := by
  rcases mem_met_call param reduced evaluated with ⟨receiver, arguments, met⟩
  rw [met, writes_call_iff reduced]
  apply or_congr
  · apply exists_congr
    intro e
    apply and_congr_right
    intro present
    rcases receiver e present with ⟨r, evaluated⟩
    exact ih e (precedes_of_receiver reduced present) evaluated param
  · apply exists_congr
    intro argument
    apply and_congr_right
    intro member
    rcases arguments argument member with ⟨r, evaluated⟩
    exact ih argument.1 (precedes_of_arg reduced member) evaluated param

theorem mem_met_paths {c : Call} {paths : List (String × Expr)}
    {write : List (String × String) → String}
    (reduced : c.reduce renderer.schema = .ok (.rawText paths write))
    (ih : ∀ e, e.Precedes (.call c) → MeetsWritten renderer e)
    (evaluated : (renderer.evaluate (.call c) scope).outcome = .ok rendering) :
    param ∈ (renderer.evaluate (.call c) scope).met ↔
      Writes renderer.schema (.call c) param := by
  rcases mem_met_rawText param reduced evaluated with ⟨each, met⟩
  rw [met, writes_rawText_iff reduced]
  apply exists_congr
  intro path
  apply and_congr_right
  intro member
  rcases each path member with ⟨r, evaluated⟩
  exact ih path.2 (precedes_of_path reduced member) evaluated param

theorem mem_met_named {symbol : RootSymbol} (ih : MeetsWritten renderer inner)
    (evaluated : (renderer.evaluate (.named inner symbol) scope).outcome = .ok rendering) :
    param ∈ (renderer.evaluate (.named inner symbol) scope).met ↔
      Writes renderer.schema (.named inner symbol) param := by
  rw [evaluate_named] at evaluated ⊢
  rcases outcome_bind_eq_ok.mp evaluated with ⟨_, evaluated, _⟩
  rw [met_bind_pure, ih evaluated]
  constructor
  · exact .named
  · intro writes
    cases writes
    assumption

theorem mem_met_assembled {parts : List Part} {result : Result}
    (ih : ∀ inner, PartOf.expr inner ∈ parts → MeetsWritten renderer inner)
    (evaluated : (renderer.evaluate (.assembled parts result) scope).outcome = .ok rendering) :
    param ∈ (renderer.evaluate (.assembled parts result) scope).met ↔
      Writes renderer.schema (.assembled parts result) param := by
  rw [evaluate_assembled] at evaluated ⊢
  rcases outcome_bind_eq_ok.mp evaluated with ⟨_, written, _⟩
  rw [met_bind_pure, mem_met_mapM_iff written]
  have each : ∀ inner, PartOf.expr inner ∈ parts →
      (param ∈ (renderer.evaluate inner scope).met ↔ Writes renderer.schema inner param) := by
    intro inner member
    rcases outcome_of_mapM written member with ⟨r, evaluated⟩
    exact ih inner member evaluated param
  constructor
  · rintro ⟨part, member, met⟩
    rcases partRendering_met.mp met with ⟨inner, rfl, met⟩
    exact .assembled member ((each inner member).mp met)
  · intro writes
    cases writes with
    | assembled member writes =>
      exact ⟨_, member, partRendering_met.mpr ⟨_, rfl, (each _ member).mpr writes⟩⟩

end Nodes

theorem meetsWritten (renderer : Renderer) (e : Expr) : MeetsWritten renderer e := by
  -- Along the order that rendering descends by: the parts of a call are those of what is left
  -- of it once its directives are worked in, which need not be parts of the call itself.
  induction e using Expr.precedes_wellFounded.induction with
  | _ e ih =>
    intro scope rendering evaluated param
    cases e with
    | root symbol =>
      rw [evaluate_root]
      exact iff_of_false not_mem_met_pure (fun writes => by cases writes)
    | property parent name result =>
      cases result with
      | undecided overloads =>
        rw [evaluate_undecided] at evaluated
        cases evaluated
      | type type =>
        cases parent with
        | none =>
          rw [← Expr.member, evaluate_bare_member]
          exact iff_of_false not_mem_met_pure (fun writes => by cases writes)
        | some parent => exact mem_met_member (ih parent .parent) evaluated
    | call c =>
      cases reduced : c.reduce renderer.schema with
      | error e =>
        rw [evaluate_irreducible reduced] at evaluated
        cases evaluated
      | ok r =>
        cases r with
        | call c' => exact mem_met_reduced reduced ih evaluated
        | rawText paths write => exact mem_met_paths reduced ih evaluated
    | value v type =>
      rw [evaluate_value, met_bind_pure]
      exact iff_of_false not_mem_met_ofExcept (fun writes => by cases writes)
    | aliased other type =>
      rw [evaluate_aliased, met_bind_pure]
      constructor
      · intro met
        cases List.mem_singleton.mp met
        exact .aliased
      · intro writes
        cases writes
        exact List.mem_singleton_self _
    | directive d =>
      rw [evaluate_directive] at evaluated
      cases evaluated
    | inContext inner context =>
      rw [evaluate_inContext] at evaluated ⊢
      rw [ih inner .inContext evaluated]
      constructor
      · exact .inContext
      · intro writes
        cases writes
        assumption
    | named inner symbol => exact mem_met_named (ih inner .named) evaluated
    | assembled parts result =>
      exact mem_met_assembled (fun inner member => ih inner (.assembled member)) evaluated

end Renderer
end ODataRequest
