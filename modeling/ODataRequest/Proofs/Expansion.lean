import ODataRequest.Clause.Options
import ODataRequest.Proofs.AliasBinding
import ODataRequest.Proofs.Pairing
import ODataRequest.Proofs.Rounds
namespace ODataRequest

/-!
How an expansion is written: the target, and behind it in parentheses its options in the order
given, the count first.
-/

inductive Asked
  | count
  | clause (clause : Clause)

namespace Asked

def key : Asked → Except Error String
  | count => .ok "$count"
  | clause c => c.key

def expr : Asked → Expr
  | count => .raw "true"
  | clause c => c.expr

def type : Asked → TypeRef
  | count => .boolean
  | clause c => c.expr.concreteType?.getD .raw

def Written (renderer : Renderer) (asked : Asked) (option : String) : Prop :=
  ∃ key text, asked.key = .ok key ∧ (renderer.render asked.expr).outcome = .ok text ∧
    option = key ++ "=" ++ text

/-- The option that is gathered while directives are worked in. -/
def Enters (asked : Asked) (entry : String × Expr) : Prop :=
  asked.key = .ok entry.1 ∧
    entry.2 = .inContext (.named asked.expr (.ofType entry.1 asked.type)) itContext

theorem entries_of_written {renderer : Renderer} {asked : List Asked} {written : List String}
    (each : List.Forall₂ (Written renderer) asked written) :
    ∃ entries, List.Forall₂ Enters asked entries := by
  induction each with
  | nil => exact ⟨[], .nil⟩
  | @cons head _ _ _ first _ ih =>
    rcases first with ⟨key, _, keyed, _⟩
    rcases ih with ⟨entries, others⟩
    let entry := (key, Expr.inContext (.named head.expr (.ofType key head.type)) itContext)
    exact ⟨entry :: entries, .cons ⟨keyed, rfl⟩ others⟩

end Asked

namespace Expand

def targetParameter : Parameter := .operand "target" .any

def countParameter : Parameter :=
  (Parameter.directive "count" .countOption "expand with $count").asOptional

def clausesParameter : Parameter :=
  (Parameter.directive "and" .subQueries "sub-query builder").asRepeated

end Expand

namespace ExpandOption

def parameter : ExpandOption → Parameter
  | count => Expand.countParameter
  | clauses _ => Expand.clausesParameter

def argument (option : ExpandOption) : CallOf.Argument :=
  (.directive option.directive, option.parameter)

/-- The count is asked of a collection; clauses are built for the expanded element. -/
inductive Asks (schema : Schema) (target : Expr) : ExpandOption → List Asked → Prop
  | count {type : TypeRef} :
      target.concreteType? = some type → type.isCollection = true →
      Asks schema target .count [.count]
  | clauses {build : Cursor → Except Error (List Clause)} {type element : TypeRef}
      {cursor : Cursor} {built : List Clause} :
      target.concreteType? = some type → CallOf.expandedType type = .ok element →
      Cursor.it schema element = .ok cursor → build cursor = .ok built →
      Asks schema target (.clauses build) (built.map .clause)

end ExpandOption

namespace CallOf

variable {schema : Schema} {c : Call} {target : Expr} {p : Parameter} {given : List Argument}

theorem options_whole (options : ∀ option ∈ given, isOption option = true) :
    given.takeWhile isOption = given ∧ given.dropWhile isOption = [] := by
  induction given with
  | nil => exact ⟨rfl, rfl⟩
  | cons head rest ih =>
    have first : isOption head = true := options head List.mem_cons_self
    rcases ih fun option member => options option (List.mem_cons_of_mem _ member) with
      ⟨taken, dropped⟩
    rw [List.takeWhile_cons_of_pos first, List.dropWhile_cons_of_pos first, taken, dropped]
    exact ⟨rfl, rfl⟩

theorem reduce_expansion (args : c.args = (target, p) :: given) (filled : given ≠ [])
    (plain : p.directiveKind? = none) (options : ∀ option ∈ given, isOption option = true) :
    c.reduce schema = (do
      let options ← given.foldlM (c.addOptions schema target) []
      pure (.call { c with
        args := [(expandedTarget target options, p)]
        signature := c.signatureWithout given })) := by
  rcases List.exists_cons_of_ne_nil filled with ⟨first, rest, rfl⟩
  have first_option : isOption first = true := options first List.mem_cons_self
  have found : splitDirective c.args = some ([(target, p)], first, rest) := by
    have target_plain : ∀ argument ∈ [(target, p)], argument.2.directiveKind? = none :=
      List.forall_mem_singleton.mpr plain
    rw [args]
    exact splitDirective_of_plain target_plain (isOption_isSome first_option)
  have whole := options_whole fun option member => options option (List.mem_cons_of_mem _ member)
  rw [reduce_round, round_of_option found first_option, expand, whole.1, whole.2]
  cases held : c.directiveOf first with
  | error e =>
    rw [List.foldlM_cons, addOptions, held]
    rfl
  | ok d =>
    cases gathered : (first :: rest).foldlM (c.addOptions schema target) [] with
    | error e =>
      simp only [bind, Except.bind, List.getLast?_singleton, gathered]
    | ok options =>
      simp only [bind, Except.bind, List.getLast?_singleton, gathered, pure, Except.pure,
        List.dropLast_singleton, List.nil_append]
      exact reduce_of_plain (List.forall_mem_singleton.mpr plain)

def addAsked (options : Options) (asked : Asked) : Except Error Options := do
  let key ← asked.key
  addOption options key asked.expr asked.type

theorem addAsked_eq_ok {options options' : Options} {asked : Asked} :
    addAsked options asked = .ok options' ↔ ∃ entry, asked.Enters entry ∧
      entry.1 ∉ options.map Prod.fst ∧ options' = options ++ [entry] := by
  rw [addAsked, bind_eq_ok]
  constructor
  · rintro ⟨key, keyed, added⟩
    rw [addOption] at added
    split at added
    · cases added
    · rename_i new
      cases added
      exact ⟨_, ⟨keyed, rfl⟩, fun known => new (List.contains_iff_mem.mpr known), rfl⟩
  · rintro ⟨⟨key, e⟩, ⟨keyed, same⟩, new, rfl⟩
    dsimp only at keyed same new
    subst same
    refine ⟨key, keyed, ?_⟩
    rw [addOption, if_neg fun known => new (List.contains_iff_mem.mp known)]

theorem addAllAsked_eq_ok {options options' : Options} {asked : List Asked}
    (distinct : (options.map Prod.fst).Nodup) :
    asked.foldlM addAsked options = .ok options' ↔ ∃ entries,
      List.Forall₂ Asked.Enters asked entries ∧ ((options ++ entries).map Prod.fst).Nodup ∧
        options' = options ++ entries := by
  induction asked generalizing options with
  | nil =>
    rw [List.foldlM_nil]
    constructor
    · intro same
      cases same
      exact ⟨[], .nil, by rwa [List.append_nil], (List.append_nil _).symm⟩
    · rintro ⟨entries, none_asked, _, rfl⟩
      cases none_asked
      rw [List.append_nil]
      rfl
  | cons head rest ih =>
    rw [List.foldlM_cons, bind_eq_ok]
    constructor
    · rintro ⟨next, stepped, added⟩
      rcases addAsked_eq_ok.mp stepped with ⟨entry, enters, new, rfl⟩
      rcases (ih (distinct_append entry.2 distinct new)).mp added with
        ⟨entries, others, distinct', rfl⟩
      rw [List.append_assoc, List.singleton_append] at distinct' ⊢
      exact ⟨entry :: entries, .cons enters others, distinct', rfl⟩
    · rintro ⟨entries, each, distinct', rfl⟩
      cases each with
      | cons enters others =>
        rename_i entry entries
        have new : entry.1 ∉ options.map Prod.fst := new_of_distinct distinct'
        refine ⟨options ++ [entry], addAsked_eq_ok.mpr ⟨entry, enters, new, rfl⟩, ?_⟩
        rw [List.append_cons options entry entries] at distinct'
        exact (ih (distinct_append entry.2 distinct new)).mpr
          ⟨entries, others, distinct', List.append_cons options entry entries⟩

/-- An option does to the options what it asks for, also when it fails. -/
theorem addOptions_of_asks {option : ExpandOption} {options : Options} {asked : List Asked}
    (asks : option.Asks schema target asked) :
    c.addOptions schema target options option.argument = asked.foldlM addAsked options := by
  cases asks with
  | count typed collection =>
    have alone : [Asked.count].foldlM addAsked options = addAsked options .count := bind_pure _
    change (if (target.concreteType?.map TypeRef.isCollection).getD false then
      addAsked options .count else .error _) = _
    rw [alone, if_pos (by rw [typed]; exact collection)]
  | clauses typed expanded started built =>
    rename_i build type element cursor clauses
    have held : c.directiveOf (ExpandOption.clauses build).argument =
      .ok (ExpandOption.clauses build).directive := rfl
    have ran : (do pure ((← build (← Cursor.it schema element)).map Clause.expr)) =
        .ok (clauses.map Clause.expr) :=
      bind_eq_ok.mpr ⟨cursor, started, bind_eq_ok.mpr ⟨clauses, built, rfl⟩⟩
    rw [addOptions, held]
    simp only [ExpandOption.directive, typed, expanded, bind, Except.bind] at ran ⊢
    rw [ran]
    dsimp only
    rw [List.foldlM_map, List.foldlM_map]
    rfl

theorem addAllOptions_of_asks {given : List ExpandOption} {options : Options}
    {asked : List (List Asked)}
    (asks : List.Forall₂ (ExpandOption.Asks schema target) given asked) :
    (given.map ExpandOption.argument).foldlM (c.addOptions schema target) options =
      asked.flatten.foldlM addAsked options := by
  induction asks generalizing options with
  | nil => rfl
  | cons first _ ih =>
    rw [List.map_cons, List.foldlM_cons, addOptions_of_asks first, List.flatten_cons,
      List.foldlM_append]
    exact bind_congr fun next => ih

theorem addOptions_eq_ok {option : ExpandOption} {options options' : Options} :
    c.addOptions schema target options option.argument = .ok options' ↔ ∃ asked,
      option.Asks schema target asked ∧ asked.foldlM addAsked options = .ok options' := by
  refine ⟨?_, fun ⟨asked, asks, added⟩ => (addOptions_of_asks asks).trans added⟩
  intro added
  have held : c.directiveOf option.argument = .ok option.directive := by cases option <;> rfl
  -- It is enough to find what the option asks for; the options then come out as they did.
  suffices found : ∃ asked, option.Asks schema target asked by
    rcases found with ⟨asked, asks⟩
    exact ⟨asked, asks, (addOptions_of_asks asks).symm.trans added⟩
  rcases addOptions_cases added with ⟨d, held', gathers⟩
  cases held.symm.trans held'
  cases option with
  | count =>
    cases gathers with | countOption collection _ =>
    cases typed : target.concreteType? with
    | none => simp [typed] at collection
    | some type =>
      rw [typed] at collection
      exact ⟨[.count], .count typed collection⟩
  | clauses build =>
    cases gathers with | subQueries typed expanded ran _ =>
    rcases bind_eq_ok.mp ran with ⟨cursor, started, wrapped⟩
    rcases bind_eq_ok.mp wrapped with ⟨clauses, built, _⟩
    exact ⟨_, .clauses typed expanded started built⟩

theorem addAllOptions_eq_ok {given : List ExpandOption} {options options' : Options} :
    (given.map ExpandOption.argument).foldlM (c.addOptions schema target) options = .ok options' ↔
      ∃ asked, List.Forall₂ (ExpandOption.Asks schema target) given asked ∧
        asked.flatten.foldlM addAsked options = .ok options' := by
  refine ⟨?_, fun ⟨asked, asks, added⟩ => (addAllOptions_of_asks asks).trans added⟩
  induction given generalizing options with
  | nil => exact fun added => ⟨[], .nil, added⟩
  | cons head rest ih =>
    rw [List.map_cons, List.foldlM_cons]
    intro added
    rcases bind_eq_ok.mp added with ⟨next, stepped, added⟩
    rcases addOptions_eq_ok.mp stepped with ⟨first, asks, stepped⟩
    rcases ih added with ⟨others, each, added⟩
    refine ⟨first :: others, .cons asks each, ?_⟩
    rw [List.flatten_cons, List.foldlM_append]
    exact bind_eq_ok.mpr ⟨next, stepped, added⟩

end CallOf

def optionsText (opening : String) : List String → String
  | [] => ")"
  | option :: rest => opening ++ option ++ optionsText ";" rest

def bracketed : List String → String
  | [] => ""
  | options => "(" ++ Text.joined ";" options ++ ")"

theorem optionsText_rest (options : List String) :
    optionsText ";" options = String.join (options.map (";" ++ ·)) ++ ")" := by
  induction options with
  | nil => rfl
  | cons head rest ih =>
    rw [optionsText, ih, List.map_cons, String.join_cons]
    simp only [String.append_assoc]

theorem bracketed_cons (option : String) (rest : List String) :
    bracketed (option :: rest) = optionsText "(" (option :: rest) := by
  change "(" ++ Text.joined ";" (option :: rest) ++ ")" = _
  rw [optionsText, optionsText_rest, Text.joined_cons]
  simp only [String.append_assoc]

namespace Renderer

open CallOf

variable {renderer : Renderer} {scope : Scope}

theorem text_of_topCall {e : Expr} {c : Call} {rendering : Rendering}
    (called : e.topCall? = some c)
    (evaluated : (renderer.evaluate e scope).outcome = .ok rendering) :
    ∃ text, rendering.text = some text := by
  induction e using Expr.topCall?.induct generalizing scope rendering with
  | case1 c' =>
    rw [evaluate_reduced] at evaluated
    rcases Traced.outcome_bind_eq_ok.mp evaluated with ⟨reduced, _, evaluated⟩
    cases reduced with
    | rawText paths write =>
      rcases Traced.outcome_bind_eq_ok.mp evaluated with ⟨texts, _, evaluated⟩
      rcases Traced.outcome_bind_eq_ok.mp evaluated with ⟨text, _, same⟩
      cases same
      exact ⟨text, rfl⟩
    | call c'' =>
      rcases Traced.outcome_bind_eq_ok.mp evaluated with ⟨_, _, evaluated⟩
      rcases Traced.outcome_bind_eq_ok.mp evaluated with ⟨receiver, _, evaluated⟩
      rcases Traced.outcome_bind_eq_ok.mp evaluated with ⟨operands, _, same⟩
      cases same
      exact ⟨_, rfl⟩
  | case2 inner context ih =>
    rw [evaluate_inContext] at evaluated
    exact ih called evaluated
  | case3 inner symbol ih =>
    rw [evaluate_named] at evaluated
    rcases Traced.outcome_bind_eq_ok.mp evaluated with ⟨within, inside, same⟩
    cases same
    rcases ih called inside with ⟨text, found⟩
    rw [found]
    cases named : symbol.context with
    | none => exact ⟨text, by simp [namedText, named]⟩
    | some name => exact ⟨name ++ "=" ++ text, by simp [namedText, named]⟩
  | case4 e call context named =>
    rw [Expr.topCall?.eq_def] at called
    split at called
    · exact absurd rfl (call _)
    · exact absurd rfl (context _ _)
    · exact absurd rfl (named _ _)
    · cases called

theorem text_of_key {asked : Asked} {key : String} {rendering : Rendering}
    (keyed : asked.key = .ok key)
    (evaluated : (renderer.evaluate asked.expr scope).outcome = .ok rendering) :
    ∃ text, rendering.text = some text := by
  cases asked with
  | count =>
    change (renderer.evaluate (.value _ _) scope).outcome = _ at evaluated
    rw [evaluate_value] at evaluated
    rcases Traced.outcome_bind_eq_ok.mp evaluated with ⟨text, _, same⟩
    cases same
    exact ⟨text, rfl⟩
  | clause clause =>
    rcases bind_eq_ok.mp keyed with ⟨c, called, _⟩
    exact text_of_topCall (Clause.call_eq_ok.mp called) evaluated

theorem render_eq_ok {e : Expr} {text : String} :
    (renderer.render e).outcome = .ok text ↔ ∃ rendering,
      (renderer.evaluate e .it).outcome = .ok rendering ∧ rendering.textOrEmpty = text := by
  rw [render, Traced.outcome_bind_eq_ok]
  constructor
  · rintro ⟨rendering, evaluated, same⟩
    cases same
    exact ⟨rendering, evaluated, rfl⟩
  · rintro ⟨rendering, evaluated, rfl⟩
    exact ⟨rendering, evaluated, rfl⟩

/-- An option is rendered as a clause of its own and gets its name in front. -/
theorem render_entry {asked : Asked} {entry : String × Expr} (enters : asked.Enters entry)
    {option : String} :
    (renderer.render entry.2).outcome = .ok option ↔ asked.Written renderer option := by
  rcases enters with ⟨keyed, same⟩
  rw [render_eq_ok, same, evaluate_inContext, evaluate_named]
  constructor
  · rintro ⟨rendering, evaluated, rfl⟩
    rcases Traced.outcome_bind_eq_ok.mp evaluated with ⟨inner, inside, same⟩
    cases same
    rcases text_of_key keyed inside with ⟨text, found⟩
    refine ⟨entry.1, text, keyed, render_eq_ok.mpr ⟨inner, inside, ?_⟩, ?_⟩
    · rw [Rendering.textOrEmpty, found, Option.getD_some]
    · rw [found]
      rfl
  · rintro ⟨key, text, keyed', rendered, rfl⟩
    rw [keyed] at keyed'
    cases keyed'
    rcases render_eq_ok.mp rendered with ⟨inner, evaluated, rfl⟩
    rcases text_of_key keyed evaluated with ⟨text, found⟩
    refine ⟨_, Traced.outcome_bind_eq_ok.mpr ⟨inner, evaluated, rfl⟩, ?_⟩
    rw [Rendering.textOrEmpty, Rendering.textOrEmpty, found]
    rfl

/-- The parts are written one after another as the text, at the top of a clause. -/
def Spells (renderer : Renderer) (parts : List Part) (text : String) : Prop :=
  ∃ renderings,
    List.Forall₂ (fun part rendering => (renderer.partRendering .it part).outcome = .ok rendering)
      parts renderings ∧
    String.join (renderings.map Rendering.textOrEmpty) = text

theorem render_assembled {parts : List Part} {result : Result} {text : String} :
    (renderer.render (.assembled parts result)).outcome = .ok text ↔
      renderer.Spells parts text := by
  rw [render_eq_ok, evaluate_assembled]
  constructor
  · rintro ⟨rendering, evaluated, rfl⟩
    rcases Traced.outcome_bind_eq_ok.mp evaluated with ⟨renderings, each, same⟩
    cases same
    exact ⟨renderings, Traced.mapM_eq_ok.mp each, rfl⟩
  · rintro ⟨renderings, each, rfl⟩
    exact ⟨_, Traced.outcome_bind_eq_ok.mpr ⟨renderings, Traced.mapM_eq_ok.mpr each, rfl⟩, rfl⟩

theorem spells_nil {text : String} : renderer.Spells [] text ↔ text = "" := by
  constructor
  · rintro ⟨renderings, each, rfl⟩
    cases each
    rfl
  · rintro rfl
    exact ⟨[], .nil, rfl⟩

theorem spells_text {opening text : String} {parts : List Part} :
    renderer.Spells (.text opening :: parts) text ↔
      ∃ rest, renderer.Spells parts rest ∧ text = opening ++ rest := by
  constructor
  · rintro ⟨renderings, each, rfl⟩
    cases each with
    | cons opened others =>
      cases opened
      exact ⟨_, ⟨_, others, rfl⟩, String.join_cons⟩
  · rintro ⟨rest, ⟨renderings, each, rfl⟩, rfl⟩
    exact ⟨.ofText opening :: renderings, .cons rfl each, String.join_cons⟩

theorem spells_expr {e : Expr} {text : String} {parts : List Part} :
    renderer.Spells (.expr e :: parts) text ↔ ∃ first rest,
      (renderer.render e).outcome = .ok first ∧ renderer.Spells parts rest ∧
        text = first ++ rest := by
  constructor
  · rintro ⟨renderings, each, rfl⟩
    cases each with
    | cons evaluated others =>
      exact ⟨_, _, render_eq_ok.mpr ⟨_, evaluated, rfl⟩, ⟨_, others, rfl⟩, String.join_cons⟩
  · rintro ⟨first, rest, rendered, ⟨renderings, each, rfl⟩, rfl⟩
    rcases render_eq_ok.mp rendered with ⟨rendering, evaluated, rfl⟩
    exact ⟨rendering :: renderings, .cons evaluated each, String.join_cons⟩

theorem spells_optionParts {asked : List Asked} {entries : Options}
    (enter : List.Forall₂ Asked.Enters asked entries) {opening text : String} :
    renderer.Spells (optionParts opening entries) text ↔
      ∃ written, List.Forall₂ (Asked.Written renderer) asked written ∧
        text = optionsText opening written := by
  induction enter generalizing opening text with
  | nil =>
    rw [optionParts, spells_text]
    constructor
    · rintro ⟨rest, ended, rfl⟩
      rw [spells_nil.mp ended]
      exact ⟨[], .nil, rfl⟩
    · rintro ⟨written, each, rfl⟩
      cases each
      exact ⟨"", spells_nil.mpr rfl, rfl⟩
  | cons enters _ ih =>
    rw [optionParts, spells_text]
    constructor
    · rintro ⟨behind, spelled, rfl⟩
      rcases spells_expr.mp spelled with ⟨first, rest, rendered, others, rfl⟩
      rcases ih.mp others with ⟨written, each, rfl⟩
      refine ⟨first :: written, .cons ((render_entry enters).mp rendered) each, ?_⟩
      rw [optionsText, String.append_assoc]
    · rintro ⟨written, each, rfl⟩
      cases each with
      | cons first others =>
        rw [optionsText, String.append_assoc]
        exact ⟨_, spells_expr.mpr ⟨_, _, (render_entry enters).mpr first,
          ih.mpr ⟨_, others, rfl⟩, rfl⟩, rfl⟩

theorem render_expandedTarget {asked : List Asked} {entries : Options}
    (enter : List.Forall₂ Asked.Enters asked entries) {target : Expr} {text : String} :
    (renderer.render (expandedTarget target entries)).outcome = .ok text ↔ ∃ head written,
      (renderer.render target).outcome = .ok head ∧
      List.Forall₂ (Asked.Written renderer) asked written ∧ text = head ++ bracketed written := by
  have options {rest : String} :
      renderer.Spells (if entries.isEmpty then [] else optionParts "(" entries) rest ↔
        ∃ written, List.Forall₂ (Asked.Written renderer) asked written ∧
          rest = bracketed written := by
    cases enter with
    | nil =>
      constructor
      · exact fun ended => ⟨[], .nil, spells_nil.mp ended⟩
      · rintro ⟨written, each, rfl⟩
        cases each
        exact spells_nil.mpr rfl
    | cons enters others =>
      change renderer.Spells (optionParts "(" _) rest ↔ _
      rw [spells_optionParts (.cons enters others)]
      constructor
      · rintro ⟨written, each, rfl⟩
        cases each with
        | cons first others => exact ⟨_, .cons first others, (bracketed_cons _ _).symm⟩
      · rintro ⟨written, each, rfl⟩
        cases each with
        | cons first others => exact ⟨_, .cons first others, bracketed_cons _ _⟩
  rw [expandedTarget, render_assembled, spells_expr]
  constructor
  · rintro ⟨head, rest, rendered, spelled, rfl⟩
    rcases options.mp spelled with ⟨written, each, rfl⟩
    exact ⟨head, written, rendered, each, rfl⟩
  · rintro ⟨head, written, rendered, each, rfl⟩
    exact ⟨head, _, rendered, options.mpr ⟨written, each, rfl⟩, rfl⟩

end Renderer

namespace Expand

def signature : Signature :=
  .declared "expand" .expand [targetParameter, countParameter, clausesParameter] (.type .raw) .plain

def ordered (options : List ExpandOption) : List ExpandOption :=
  (options.filter ExpandOption.isCount).take 1 ++ options.filter fun option => !option.isCount

def call (target : Expr) (options : List ExpandOption) : Call where
  receiver := none
  args := (target, targetParameter) :: (ordered options).map ExpandOption.argument
  signature := signature
  bindings := .empty

def given (option : ExpandOption) : Expr := .directive option.directive

theorem pairing_clauses {others : List ExpandOption}
    (clauses : ∀ option ∈ others, option.isCount = false) :
    Signature.Pairing [clausesParameter] (others.map given) (others.map ExpandOption.argument)
      [] := by
  induction others with
  | nil => exact .closed rfl (Nat.le_refl _) .done
  | cons head rest ih =>
    have later := ih fun option member => clauses option (List.mem_cons_of_mem _ member)
    cases head with
    | count => cases clauses _ List.mem_cons_self
    | clauses build => exact .absorbed rfl (Nat.zero_le _) (fun _ => rfl) later

theorem mem_of_mem_ordered {option : ExpandOption} {options : List ExpandOption}
    (member : option ∈ ordered options) : option ∈ options := by
  rcases List.mem_append.mp member with count | other
  · exact (List.mem_filter.mp (List.mem_of_mem_take count)).1
  · exact (List.mem_filter.mp other).1

theorem ordered_cases (options : List ExpandOption) :
    ∃ others, (∀ option ∈ others, option.isCount = false) ∧
      (ordered options = others ∨ ordered options = .count :: others) := by
  refine ⟨options.filter fun option => !option.isCount, ?_, ?_⟩
  · intro option member
    simpa using (List.mem_filter.mp member).2
  · rw [ordered]
    cases counts : options.filter ExpandOption.isCount with
    | nil => exact .inl rfl
    | cons head rest =>
      have member : head ∈ options.filter ExpandOption.isCount := counts ▸ List.mem_cons_self
      cases head with
      | count => exact .inr rfl
      | clauses build => cases (List.mem_filter.mp member).2

theorem pairing_expand (target : Expr) (options : List ExpandOption) :
    Signature.Pairing signature.parameters (target :: (ordered options).map given)
      ((target, targetParameter) :: (ordered options).map ExpandOption.argument) [] := by
  apply Signature.Pairing.taken rfl (fun optional => by cases optional)
  rcases ordered_cases options with ⟨others, clauses, same | same⟩
  · rw [same]
    apply Signature.Pairing.passed rfl rfl _ (pairing_clauses clauses)
    intro e first
    cases others with
    | nil => cases first
    | cons head rest =>
      cases head with
      | count => cases clauses _ List.mem_cons_self
      | clauses build =>
        cases first
        rfl
  · rw [same]
    exact .taken rfl (fun _ => rfl) (pairing_clauses clauses)

theorem expandWith_eq (target : Expr) (options : List ExpandOption) :
    expandWith target options = .ok (.call (call target options)) := by
  have found : Builtin.signature .expand "expand" = .ok signature := rfl
  have untyped : ∀ p ∈ signature.parameters, Signature.leavesTypes p = true := by decide
  rw [expandWith, List.partition_eq_filter_filter]
  change Builtin.signature .expand "expand" >>= (fun s =>
    s.apply none (target :: (ordered options).map given)) = _
  rw [found]
  exact Signature.apply_of_leavesTypes (pairing_expand target options) untyped

theorem checkCall_narrowed (args : List CallOf.Argument) (keep : Parameter → Bool)
    (bindings : Table TypeRef) :
    Renderer.checkCall ⟨none, args,
      signature.reshaped (signature.parameters.filter keep) .plain, bindings⟩ = .ok () := by
  have valid :
      (signature.reshaped (signature.parameters.filter keep) .plain).validate = .ok () := by
    simp only [signature, Signature.declared, Signature.reshaped, Signature.validate,
      List.filter_cons, List.filter_nil]
    cases keep targetParameter <;> cases keep countParameter <;> cases keep clausesParameter <;> rfl
  rw [Renderer.checkCall, valid]
  rfl

theorem isOption_argument (option : ExpandOption) : CallOf.isOption option.argument = true := by
  cases option <;> rfl

theorem keys_nodup_iff {asked : List Asked} {entries : CallOf.Options}
    (enter : List.Forall₂ Asked.Enters asked entries) :
    (entries.map Prod.fst).Nodup ↔ (asked.map Asked.key).Nodup := by
  have keys : asked.map Asked.key = (entries.map Prod.fst).map Except.ok := by
    induction enter with
    | nil => rfl
    | cons enters _ ih => rw [List.map_cons, List.map_cons, List.map_cons, ih, enters.1]
  rw [keys, List.Nodup, List.Nodup, List.pairwise_map (l := entries.map Prod.fst)]
  simp only [ne_eq, Except.ok.injEq]

section Rendering

variable {renderer : Renderer} {target : Expr} {options : List ExpandOption} {text : String}

theorem render_bare (bare : ordered options = []) :
    (renderer.render (.call (call target options))).outcome = .ok text ↔
      (renderer.render target).outcome = .ok text := by
  have args : (call target options).args = [(target, targetParameter)] := by
    rw [call, bare]
    rfl
  have reduced : (call target options).reduce renderer.schema =
      .ok (.call (call target options)) := by
    apply CallOf.reduce_of_plain
    rw [args]
    exact List.forall_mem_singleton.mpr rfl
  cases other : Renderer.isDirective target with
  | false => rw [Renderer.render_operand reduced args rfl other rfl rfl rfl]
  | true =>
    cases target with
    | directive d =>
      have refused : ∀ scope, (renderer.operand (call (.directive d) options) scope
          (.directive d, targetParameter)) = .fail (.unresolvedDirective "target" signature.text) :=
        fun _ => rfl
      rw [Renderer.render, Renderer.render, Renderer.evaluate_call reduced,
        Renderer.evaluate_directive, args, List.mapM_cons, refused]
      constructor
      · intro rendered
        cases rendered
      · intro rendered
        cases rendered
    | _ => cases other

theorem reduce_call (filled : ordered options ≠ []) {schema : Schema} :
    (call target options).reduce schema = (do
      let entries ← ((ordered options).map ExpandOption.argument).foldlM
        ((call target options).addOptions schema target) []
      pure (.call { call target options with
        args := [(CallOf.expandedTarget target entries, targetParameter)]
        signature := (call target options).signatureWithout
          ((ordered options).map ExpandOption.argument) })) := by
  apply CallOf.reduce_expansion rfl _ rfl
  · intro option member
    rcases List.mem_map.mp member with ⟨given, _, rfl⟩
    exact isOption_argument given
  · intro empty
    exact filled (List.map_eq_nil_iff.mp empty)

theorem render_gathered (filled : ordered options ≠ []) {entries : CallOf.Options}
    (gathered : ((ordered options).map ExpandOption.argument).foldlM
      ((call target options).addOptions renderer.schema target) [] = .ok entries) :
    renderer.render (.call (call target options)) =
      renderer.render (CallOf.expandedTarget target entries) := by
  have reduced : (call target options).reduce renderer.schema = _ := reduce_call filled
  rw [gathered] at reduced
  exact Renderer.render_operand reduced rfl rfl rfl rfl (checkCall_narrowed _ _ _) rfl

theorem render_refused {e : Error}
    (refused : ((ordered options).map ExpandOption.argument).foldlM
      ((call target options).addOptions renderer.schema target) [] = .error e) :
    (renderer.render (.call (call target options))).outcome = .error e := by
  have filled : ordered options ≠ [] := by
    intro empty
    rw [empty] at refused
    cases refused
  have reduced : (call target options).reduce renderer.schema = _ := reduce_call filled
  rw [refused] at reduced
  rw [Renderer.render, Renderer.evaluate_irreducible reduced]
  rfl

theorem render_filled (filled : ordered options ≠ []) :
    (renderer.render (.call (call target options))).outcome = .ok text ↔ ∃ entries,
      ((ordered options).map ExpandOption.argument).foldlM
        ((call target options).addOptions renderer.schema target) [] = .ok entries ∧
      (renderer.render (CallOf.expandedTarget target entries)).outcome = .ok text := by
  constructor
  · intro rendered
    cases gathered : ((ordered options).map ExpandOption.argument).foldlM
        ((call target options).addOptions renderer.schema target) [] with
    | error e =>
      rw [render_refused gathered] at rendered
      cases rendered
    | ok entries => exact ⟨entries, rfl, render_gathered filled gathered ▸ rendered⟩
  · rintro ⟨entries, gathered, rendered⟩
    rwa [render_gathered filled gathered]

/-- An expansion is written exactly if its target and its options are and no key occurs twice:
the target first, then the options in parentheses. -/
theorem render_call :
    (renderer.render (.call (call target options))).outcome = .ok text ↔
      ∃ head asked written, (renderer.render target).outcome = .ok head ∧
        List.Forall₂ (ExpandOption.Asks renderer.schema target) (ordered options) asked ∧
        List.Forall₂ (Asked.Written renderer) asked.flatten written ∧
        (asked.flatten.map Asked.key).Nodup ∧ text = head ++ bracketed written := by
  by_cases bare : ordered options = []
  · rw [render_bare bare, bare]
    constructor
    · intro rendered
      exact ⟨text, [], [], rendered, .nil, .nil, List.nodup_nil, (String.append_empty).symm⟩
    · rintro ⟨head, asked, written, rendered, none_asked, each, _, rfl⟩
      cases none_asked
      cases each
      rwa [bracketed, String.append_empty]
  · have start : (([] : CallOf.Options).map Prod.fst).Nodup := List.nodup_nil
    rw [render_filled bare]
    constructor
    · rintro ⟨entries, gathered, rendered⟩
      rcases CallOf.addAllOptions_eq_ok.mp gathered with ⟨asked, asks, added⟩
      rcases (CallOf.addAllAsked_eq_ok start).mp added with ⟨entered, enter, distinct, rfl⟩
      rcases (Renderer.render_expandedTarget enter).mp rendered with
        ⟨head, written, rendered, each, same⟩
      exact ⟨head, asked, written, rendered, asks, each, (keys_nodup_iff enter).mp distinct, same⟩
    · rintro ⟨head, asked, written, rendered, asks, each, distinct, same⟩
      rcases Asked.entries_of_written each with ⟨entries, enter⟩
      have added := (CallOf.addAllAsked_eq_ok start).mpr
        ⟨entries, enter, (keys_nodup_iff enter).mpr distinct, rfl⟩
      exact ⟨entries, CallOf.addAllOptions_eq_ok.mpr ⟨asked, asks, added⟩,
        (Renderer.render_expandedTarget enter).mpr ⟨head, written, rendered, each, same⟩⟩

end Rendering

end Expand
end ODataRequest
