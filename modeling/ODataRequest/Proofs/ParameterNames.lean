import Mathlib.Data.List.Duplicate
import ODataRequest.Expr.Application
import ODataRequest.Proofs.Rounds
namespace ODataRequest

section Repeated

variable {seen texts : List String} {text : String}

theorem firstRepeated?_eq_none :
    firstRepeated? seen texts = none ↔ texts.Nodup ∧ ∀ text ∈ texts, text ∉ seen := by
  induction texts generalizing seen with
  | nil => simp [firstRepeated?]
  | cons head rest ih =>
    unfold firstRepeated?
    rw [List.nodup_cons, List.forall_mem_cons]
    split
    · rename_i present
      have member : head ∈ seen := List.contains_iff_mem.mp present
      simp [member]
    · rename_i absent
      have fresh : head ∉ seen := fun member => absent (List.contains_iff_mem.mpr member)
      rw [ih]
      constructor
      · rintro ⟨distinct, others⟩
        refine ⟨⟨fun member => others head member List.mem_cons_self, distinct⟩, fresh, ?_⟩
        exact fun text member => fun present => others text member (List.mem_cons_of_mem _ present)
      · rintro ⟨⟨once, distinct⟩, _, others⟩
        refine ⟨distinct, fun text member present => ?_⟩
        rcases List.mem_cons.mp present with rfl | present
        · exact once member
        · exact others text member present

theorem firstRepeated?_eq_some (found : firstRepeated? seen texts = some text) :
    text ∈ seen ∧ text ∈ texts ∨ List.Duplicate text texts := by
  induction texts generalizing seen with
  | nil => cases found
  | cons head rest ih =>
    unfold firstRepeated? at found
    split at found
    · rename_i present
      cases found
      exact .inl ⟨List.contains_iff_mem.mp present, List.mem_cons_self⟩
    · rcases ih found with ⟨member, again⟩ | duplicate
      · rcases List.mem_cons.mp member with rfl | member
        · exact .inr again.duplicate_cons_self
        · exact .inl ⟨member, List.mem_cons_of_mem head again⟩
      · exact .inr (duplicate.duplicate_cons head)

end Repeated

/-- What the check of a call reads of its signature. -/
structure Declaration where
  parameters : List Parameter
  result : Result

def Signature.declaration (s : Signature) : Declaration := ⟨s.parameters, s.result⟩

namespace Declaration

def names (d : Declaration) : List String := d.parameters.map Parameter.name

def without (d : Declaration) (names : List String) : Declaration :=
  { d with parameters := d.parameters.filter fun p => !names.contains p.name }

def overload? (d : Declaration) (type : TypeRef) : Option Signature :=
  match d.result with
  | .undecided overloads => overloads.byResult? type
  | .type _ => none

def after (d : Declaration) (argument : CallOf.Argument) : Declaration :=
  let others := d.without [argument.2.name]
  match argument.1 with
  | .directive (.result type) =>
    match d.overload? type.type with
    | some overload => overload.declaration
    | none => { others with result := .type type.type }
  | _ => others

variable {d : Declaration} {argument : CallOf.Argument} {args : List CallOf.Argument}

theorem without_nil (d : Declaration) : d.without [] = d := by
  simp [without]

theorem without_without (d : Declaration) (names names' : List String) :
    (d.without names).without names' = d.without (names ++ names') := by
  simp [without, List.filter_filter, Bool.and_comm]

theorem names_without (d : Declaration) (names : List String) :
    (d.without names).names = d.names.filter fun name => !names.contains name := by
  rw [Declaration.names, Declaration.names, List.filter_map]
  rfl

theorem overload?_of_type {type type' : TypeRef} (decided : d.result = .type type) :
    d.overload? type' = none := by
  rw [overload?, decided]

theorem overload?_of_undecided {overloads : Overloads} {type : TypeRef}
    (undecided : d.result = .undecided overloads) :
    d.overload? type = overloads.byResult? type := by
  rw [overload?, undecided]

theorem other_of_kind {directive : Directive} (holds : argument.1 = .directive directive)
    (kind : directive.kind ≠ .result) : ∀ type, argument.1 ≠ .directive (.result type) := by
  intro type same
  cases holds.symm.trans same
  exact kind rfl

theorem after_other (other : ∀ type, argument.1 ≠ .directive (.result type)) :
    d.after argument = d.without [argument.2.name] := by
  unfold after
  split
  · rename_i type given
    exact absurd given (other type)
  · rfl

/-- Directives that do not decide the result take away the parameters of their names. -/
theorem foldl_after_others
    (others : ∀ argument ∈ args, ∀ type, argument.1 ≠ .directive (.result type)) :
    args.foldl after d = d.without (args.map fun argument => argument.2.name) := by
  induction args generalizing d with
  | nil => exact (without_nil d).symm
  | cons argument rest ih =>
    rcases List.forall_mem_cons.mp others with ⟨other, others⟩
    rw [List.foldl_cons, after_other other, ih others, without_without]
    rfl

theorem after_decided {type : TypeRef} (decided : d.result = .type type)
    (argument : CallOf.Argument) :
    (d.after argument).parameters = (d.without [argument.2.name]).parameters ∧
      ∃ type', (d.after argument).result = .type type' := by
  unfold after
  split
  · rw [overload?_of_type decided]
    exact ⟨rfl, _, rfl⟩
  · exact ⟨rfl, type, decided⟩

/-- Where the result is decided already, so do all directives. -/
theorem parameters_foldl_after {type : TypeRef} (decided : d.result = .type type) :
    (args.foldl after d).parameters =
      (d.without (args.map fun argument => argument.2.name)).parameters := by
  induction args generalizing d type with
  | nil => rw [List.foldl_nil, List.map_nil, without_nil]
  | cons argument rest ih =>
    rcases after_decided decided argument with ⟨parameters, type', decided'⟩
    have further (names : List String) : ((d.after argument).without names).parameters =
        ((d.without [argument.2.name]).without names).parameters := by
      rw [without, without, parameters]
    rw [List.foldl_cons, ih decided', further, without_without]
    rfl

theorem nodup_without_iff (d : Declaration) (names : List String) :
    (d.without names).names.Nodup ↔ ∀ name, List.Duplicate name d.names → name ∈ names := by
  rw [names_without, List.nodup_iff_forall_not_duplicate]
  refine forall_congr' fun name => ?_
  rw [List.duplicate_iff_two_le_count, List.duplicate_iff_two_le_count]
  by_cases taken : name ∈ names
  · have gone : name ∉ d.names.filter fun name => !names.contains name := by
      simp [taken]
    rw [List.count_eq_zero_of_not_mem gone]
    simp [taken]
  · rw [List.count_filter (by simp [taken])]
    simp [taken]

end Declaration

theorem Signature.validate_eq_ok {s : Signature} :
    s.validate = .ok () ↔ s.declaration.names.Nodup := by
  have unrepeated : firstRepeated? [] s.declaration.names = none ↔ s.declaration.names.Nodup :=
    firstRepeated?_eq_none.trans (by simp)
  rw [← unrepeated]
  change s.validate = .ok () ↔ firstRepeated? [] (s.parameters.map Parameter.name) = none
  unfold validate
  cases firstRepeated? [] (s.parameters.map Parameter.name) <;> simp

theorem Signature.validate_of_repeated {s : Signature} (repeated : ¬s.declaration.names.Nodup) :
    ∃ name, List.Duplicate name s.declaration.names ∧
      s.validate = .error (.duplicateParameter name s.text) := by
  cases found : firstRepeated? [] s.declaration.names with
  | none => exact absurd (firstRepeated?_eq_none.mp found).1 repeated
  | some name =>
    rcases firstRepeated?_eq_some found with ⟨member, _⟩ | duplicate
    · cases member
    · refine ⟨name, duplicate, ?_⟩
      change firstRepeated? [] (s.parameters.map Parameter.name) = some name at found
      rw [validate, found]

namespace CallOf

def directives (args : List Argument) : List Argument := args.filter isForDirective

def left (c : Call) : Declaration :=
  (directives c.args).foldl Declaration.after c.signature.declaration

variable {schema : Schema} {c c' : Call} {args args' before after : List Argument}
  {argument : Argument}

theorem directives_of_plain (plain : ∀ a ∈ args, isForDirective a = false) :
    directives args = [] :=
  List.filter_eq_nil_iff.mpr fun a member => by rw [plain a member]; simp

theorem directives_append (args args' : List Argument) :
    directives (args ++ args') = directives args ++ directives args' := List.filter_append _ _

theorem directives_split (split : splitDirective args = some (before, argument, after)) :
    directives args = argument :: directives after := by
  rcases splitDirective_first split with ⟨plain, found⟩
  rw [splitDirective_eq split, directives_append, directives_of_plain plain, List.nil_append]
  exact List.filter_cons_of_pos found

theorem directives_options (after : List Argument) :
    directives after = after.takeWhile isOption ++ directives (after.dropWhile isOption) := by
  have given : directives (after.takeWhile isOption) = after.takeWhile isOption :=
    List.filter_eq_self.mpr fun option member =>
      isForDirective_of_isOption (List.all_eq_true.mp List.all_takeWhile option member)
  rw [← given, ← directives_append, List.takeWhile_append_dropWhile]

theorem left_split (split : splitDirective c.args = some (before, argument, after)) :
    c.left =
      (directives after).foldl Declaration.after (c.signature.declaration.after argument) := by
  rw [left, directives_split split, List.foldl_cons]

theorem declaration_signatureWithout (c : Call) (removed : List Argument) :
    (c.signatureWithout removed).declaration =
      c.signature.declaration.without (removed.map fun argument => argument.2.name) := rfl

theorem declaration_settledSignature {type : PrimitiveType}
    (given : argument.1 = .directive (.result type)) :
    (c.settledSignature argument type.type).declaration =
      c.signature.declaration.after argument := by
  unfold settledSignature Declaration.after
  rw [given]
  dsimp only
  cases result : c.signature.result with
  | type =>
    rw [Declaration.overload?_of_type (d := c.signature.declaration) result]
    rfl
  | undecided overloads =>
    rw [Declaration.overload?_of_undecided (d := c.signature.declaration) result]
    dsimp only
    cases overloads.byResult? type.type <;> rfl

theorem formatArgument_after {format : Format} {a b : Argument}
    (formatted : formatArgument format a = .ok b) (d : Declaration) : d.after b = d.after a := by
  rcases formatArgument_cases formatted with rfl | ⟨v, type, text, constant, _, rfl⟩
  · rfl
  · unfold Declaration.after
    rw [constant]
    rfl

theorem foldl_formatted {format : Format} (d : Declaration)
    (formatted : List.Forall₂ (fun a b => formatArgument format a = .ok b) args args') :
    (directives args').foldl Declaration.after d = (directives args).foldl Declaration.after d := by
  induction formatted generalizing d with
  | nil => rfl
  | @cons a b args args' head _ ih =>
    have kind : isForDirective b = isForDirective a :=
      isForDirective_carried (formatArgument_carries head)
    unfold directives at ih ⊢
    rw [List.filter_cons, List.filter_cons, kind]
    split
    · rw [List.foldl_cons, List.foldl_cons, formatArgument_after head, ih]
    · exact ih d

theorem gathered_others {target : Expr} {given : List Argument} {options options' : Options}
    (gathered : given.foldlM (c.addOptions schema target) options = .ok options') :
    ∀ argument ∈ given, ∀ type, argument.1 ≠ .directive (.result type) := by
  intro argument member type same
  rcases List.append_of_mem member with ⟨front, back, split⟩
  rw [split] at gathered
  rcases foldlM_split gathered with ⟨_, _, _, added, _⟩
  rcases addOptions_cases added with ⟨d, held, gathers⟩
  cases (directiveOf_eq held).symm.trans same
  cases gathers

theorem expand_left (split : splitDirective c.args = some (before, argument, after))
    (expanded : c.expand schema before argument after = .ok (.next c')) : c'.left = c.left := by
  rcases expand_next expanded with ⟨target, p, options, last, gathered, rfl⟩
  rcases splitDirective_first split with ⟨plain, _⟩
  have operand : isForDirective (expandedTarget target options, p) = false :=
    plain (target, p) (List.mem_of_getLast? last)
  have kept : directives (before.dropLast ++
      (expandedTarget target options, p) :: after.dropWhile isOption) =
        directives (after.dropWhile isOption) := by
    rw [directives_append,
      directives_of_plain fun a member => plain a (List.dropLast_subset _ member)]
    exact List.filter_cons_of_neg (by rw [operand]; simp)
  -- An expansion takes the parameters of all its options away at once.
  have whole : c.left = (directives (after.dropWhile isOption)).foldl Declaration.after
      (c.signature.declaration.without
        ((argument :: after.takeWhile isOption).map fun argument => argument.2.name)) := by
    rw [left_split split, directives_options after, List.foldl_append, ← List.foldl_cons,
      Declaration.foldl_after_others (gathered_others gathered)]
  rw [whole, left, declaration_signatureWithout]
  dsimp only
  rw [kept]

/-- A round works in what its first directive leaves, and no more. -/
theorem round_left (next : c.round schema = .ok (.next c')) : c'.left = c.left := by
  cases round_eq_ok next with
  | @next before after argument d _ split held worked =>
    have holds : argument.1 = .directive d := directiveOf_eq held
    rcases splitDirective_first split with ⟨plain, _⟩
    have kept : directives (before ++ after) = directives after := by
      rw [directives_append, directives_of_plain plain, List.nil_append]
    -- The directive decides what happens to the declaration, its parameter only gives the name.
    cases worked with
    | customName name =>
      rw [left_split split, left, Declaration.after_other (Declaration.other_of_kind holds nofun)]
      dsimp only
      rw [kept, declaration_signatureWithout]
      rfl
    | result type =>
      rw [left_split split, left, ← declaration_settledSignature holds]
      dsimp only
      rw [kept]
    | format mapped =>
      rw [left_split split, left, Declaration.after_other (Declaration.other_of_kind holds nofun)]
      dsimp only
      rw [foldl_formatted _ (mapM_eq_ok.mp mapped), kept, declaration_signatureWithout]
      rfl
    | subQueries expanded | countOption expanded => exact expand_left split expanded

theorem reduce_left (reduced : c.reduce schema = .ok (.call c')) :
    c'.signature.declaration = c.left := by
  fun_induction reduce schema c with
  | case1 => cases reduced
  | case2 c step =>
    cases reduced
    cases round_works step with
    | finished split =>
      unfold left
      rw [directives_of_plain (splitDirective_eq_none split)]
      rfl
  | case3 => cases reduced
  | case4 c next step ih => exact (ih reduced).trans (round_left step)

theorem nodup_left_iff {type : TypeRef} (decided : c.signature.result = .type type) :
    c.left.names.Nodup ↔ ∀ name, List.Duplicate name c.signature.declaration.names →
      ∃ argument ∈ directives c.args, argument.2.name = name := by
  have parameters : c.left.parameters = (c.signature.declaration.without
      ((directives c.args).map fun argument => argument.2.name)).parameters :=
    Declaration.parameters_foldl_after decided
  rw [Declaration.names, parameters, ← Declaration.names, Declaration.nodup_without_iff]
  simp only [List.mem_map]

end CallOf

namespace Renderer

open CallOf

def PartsRender (renderer : Renderer) (c : Call) (scope : Scope) : Prop :=
  ∃ receiver operands, (renderer.receiverRendering c scope).outcome = .ok receiver ∧
    (c.args.mapM (renderer.operand c scope)).outcome = .ok operands

def HandWrites (renderer : Renderer) (paths : List (String × Expr))
    (write : List (String × String) → String) : Prop :=
  ∃ texts text, (paths.mapM renderer.pathText).outcome = .ok texts ∧
    renderer.serializer renderer.schema (.raw (write texts)) .raw = .ok text

variable {renderer : Renderer} {c c' : Call} {scope : Scope}

theorem checkCall_eq_ok : checkCall c = .ok () ↔
    c.signature.declaration.names.Nodup ∧ ∃ type, c.signature.declaration.result = .type type := by
  unfold checkCall
  rw [bind_eq_ok, ← Signature.validate_eq_ok]
  constructor
  · rintro ⟨_, valid, settled⟩
    refine ⟨valid, ?_⟩
    split at settled
    · cases settled
    · rename_i type decided
      exact ⟨type, decided⟩
  · rintro ⟨valid, type, decided⟩
    refine ⟨(), valid, ?_⟩
    change c.signature.result = .type type at decided
    rw [decided]

theorem renders_call_iff (reduced : c.reduce renderer.schema = .ok (.call c')) :
    (∃ rendering, (renderer.evaluate (.call c) scope).outcome = .ok rendering) ↔
      checkCall c' = .ok () ∧ renderer.PartsRender c' scope := by
  rw [evaluate_call reduced, Traced.exists_outcome_bind]
  constructor
  · rintro ⟨_, checked, evaluated⟩
    rcases Traced.exists_outcome_bind.mp evaluated with ⟨receiver, received, evaluated⟩
    rcases Traced.exists_outcome_bind.mp evaluated with ⟨operands, written, _⟩
    exact ⟨checked, receiver, operands, received, written⟩
  · rintro ⟨checked, receiver, operands, received, written⟩
    refine ⟨(), checked, Traced.exists_outcome_bind.mpr ⟨receiver, received, ?_⟩⟩
    exact Traced.exists_outcome_bind.mpr ⟨operands, written, _, rfl⟩

theorem renders_rawText_iff {paths : List (String × Expr)}
    {write : List (String × String) → String}
    (reduced : c.reduce renderer.schema = .ok (.rawText paths write)) :
    (∃ rendering, (renderer.evaluate (.call c) scope).outcome = .ok rendering) ↔
      renderer.HandWrites paths write := by
  rw [evaluate_rawText reduced, Traced.exists_outcome_bind]
  constructor
  · rintro ⟨texts, written, evaluated⟩
    rcases Traced.exists_outcome_bind.mp evaluated with ⟨text, literal, _⟩
    exact ⟨texts, text, written, literal⟩
  · rintro ⟨texts, text, written, literal⟩
    exact ⟨texts, written, Traced.exists_outcome_bind.mpr ⟨text, literal, _, rfl⟩⟩

/-- A call is rendered only if the names of the parameters that its directives leave are different,
or if its text is written by hand. If two of them are the same, it is refused for that name. A call
with a decided result keeps a name twice if no directive of that name is given. -/
theorem renders_iff_names_left_differ (renderer : Renderer) (c : Call) (scope : Scope) :
    ((∃ rendering, (renderer.evaluate (.call c) scope).outcome = .ok rendering) ↔
      (∃ c', c.reduce renderer.schema = .ok (.call c') ∧ c.left.names.Nodup ∧
        (∃ type, c.left.result = .type type) ∧ renderer.PartsRender c' scope) ∨
      ∃ paths write, c.reduce renderer.schema = .ok (.rawText paths write) ∧
        renderer.HandWrites paths write) ∧
    (∀ c', c.reduce renderer.schema = .ok (.call c') → ¬c.left.names.Nodup →
      ∃ name, List.Duplicate name c.left.names ∧
        renderer.evaluate (.call c) scope = .fail (.duplicateParameter name c'.signature.text)) ∧
    ∀ type, c.signature.result = .type type →
      (c.left.names.Nodup ↔ ∀ name, List.Duplicate name c.signature.declaration.names →
        ∃ argument ∈ directives c.args, argument.2.name = name) := by
  refine ⟨?renders, ?refused, fun type => nodup_left_iff⟩
  case renders =>
    cases reduced : c.reduce renderer.schema with
    | error e =>
      rw [evaluate_irreducible reduced]
      simp [Traced.fail]
    | ok result =>
      cases result with
      | call c' =>
        rw [renders_call_iff reduced, checkCall_eq_ok, reduce_left reduced]
        simp [and_assoc]
      | rawText paths write =>
        rw [renders_rawText_iff reduced]
        simp
  case refused =>
    intro c' reduced repeated
    rw [← reduce_left reduced] at repeated ⊢
    rcases Signature.validate_of_repeated repeated with ⟨name, duplicate, refused⟩
    refine ⟨name, duplicate, ?_⟩
    rw [evaluate_call reduced, checkCall, refused]
    rfl

end Renderer

namespace Shadowing

def one : CallOf.Argument := (.constant (.int 1), .operand "x" .any)

def resultType : CallOf.Argument :=
  (.directive (.result .int64), .directive "x" .result "the type of the result")

def shadowed : Call where
  receiver := none
  args := [one, resultType]
  signature := .declared "f" .filter [one.2, resultType.2] (.type .int64) .plain
  bindings := .empty

def doubled : Call where
  receiver := none
  args := [one, one]
  signature := .declared "f" .filter [one.2, one.2] (.type .int64) .plain
  bindings := .empty

def unshadowed : Call :=
  { shadowed with
    args := [one]
    signature := shadowed.settledSignature resultType PrimitiveType.int64.type }

theorem reduce_shadowed : shadowed.reduce .empty = .ok (.call unshadowed) := by
  have step : shadowed.round .empty = .ok (.next unshadowed) := rfl
  rw [CallOf.reduce_round, step]
  exact CallOf.reduce_of_plain (List.forall_mem_singleton.mpr rfl)

theorem evaluate_one (scope : Scope) :
    (Renderer.standard .empty).evaluate one.1 scope = pure (.ofText "1") := by
  rw [one, Expr.constant, Renderer.evaluate_value]
  rfl

theorem partsRender_unshadowed (scope : Scope) :
    (Renderer.standard .empty).PartsRender unshadowed scope := by
  have written : (Renderer.standard .empty).operand unshadowed scope one = pure (none, "1") := by
    change (do
      let rendering ← (Renderer.standard .empty).evaluate one.1 scope.atTop
      pure (rendering.root, rendering.textOrEmpty)) = _
    rw [evaluate_one]
    rfl
  refine ⟨.empty, [(none, "1")], rfl, ?_⟩
  rw [show unshadowed.args = [one] from rfl, List.mapM_cons, written]
  rfl

end Shadowing

open Shadowing

/-- The directive takes the operand of its name away and the call is rendered; two operands of one
name stay and are refused. -/
theorem Renderer.renders_iff_names_left_differ_shadowed :
    (∃ rendering, ((standard .empty).evaluate (.call shadowed) .it).outcome = .ok rendering) ∧
    ∃ name, (standard .empty).evaluate (.call doubled) .it =
      .fail (.duplicateParameter name doubled.signature.text) := by
  have plain : ∀ argument ∈ doubled.args, argument.2.directiveKind? = none := by decide
  constructor
  · apply (renders_iff_names_left_differ (standard .empty) shadowed .it).1.mpr
    exact .inl ⟨unshadowed, reduce_shadowed, by decide, ⟨_, rfl⟩, partsRender_unshadowed .it⟩
  · rcases (renders_iff_names_left_differ (standard .empty) doubled .it).2.1 doubled
      (CallOf.reduce_of_plain plain) (by decide) with ⟨name, _, refused⟩
    exact ⟨name, refused⟩

/-- A signature that declares a name twice, called with an argument for each: a text comes out. -/
theorem Renderer.shadowed_renders :
    List.Duplicate "x" (shadowed.signature.parameters.map Parameter.name) ∧
    shadowed.signature.apply none [one.1, resultType.1] = .ok (.call shadowed) ∧
    ((standard .empty).render (.call shadowed)).outcome = .ok "1" := by
  refine ⟨by decide, rfl, ?_⟩
  rw [render_operand (e := one.1) (p := one.2) reduce_shadowed rfl rfl rfl rfl rfl rfl, render,
    evaluate_one]
  rfl

end ODataRequest
