import ODataRequest.Proofs.AliasBinding
import ODataRequest.Proofs.BaseChains
import ODataRequest.Proofs.PathFrame
namespace ODataRequest

/-!
Where the cause of a failure comes from. Schema, rewriting and rendering have causes of their own
and never say that an entity set is missing; if that is heard from them, the author's own code has
said it, the serializer or a sub-query function.
-/

def Error.isMissingSet : Error → Bool
  | .missingEntitySet _ => true
  | _ => false

namespace Renderer

/-- The author's own code gives the cause: the serializer, or a sub-query function that stands
among the expressions to be rendered. -/
inductive Foreign (renderer : Renderer) (rendered : Expr → Prop) (cause : Error) : Prop
  | serializer (value : Value) (type : TypeRef) :
      renderer.serializer renderer.schema value type = .error cause →
      Foreign renderer rendered cause
  | subQueries (build : Schema → TypeRef → Except Error (List Expr)) (type : TypeRef) :
      rendered (.directive (.subQueries build)) → build renderer.schema type = .error cause →
      Foreign renderer rendered cause

def Explained (renderer : Renderer) (rendered : Expr → Prop) (cause : Error) : Prop :=
  cause.isMissingSet = true → renderer.Foreign rendered cause

/-- A property of expressions that passes on to everything rendered on the way. -/
def Descends (rendered : Expr → Prop) : Prop :=
  ∀ e whole, Expr.Precedes e whole → rendered whole → rendered e

end Renderer

namespace Schema

theorem kind_spares (schema : Schema) (type : TypeRef) :
    Yields (schema.kind type) (fun _ => True) fun e => e.isMissingSet = false := by
  cases type with
  | collection element => exact Yields.error rfl
  | named scope name =>
    apply (schema.kind_named_fails scope name).causes
    rintro _ rfl
    rfl

theorem complex_spares (schema : Schema) (type : TypeRef) :
    Yields (schema.complex type) (fun _ => True) fun e => e.isMissingSet = false := by
  rw [complex]
  split
  · exact Yields.ok trivial
  · exact Yields.error rfl
  · rename_i failed
    exact (schema.kind_spares type).of_eq_error failed

theorem baseChain_spares (schema : Schema) (c : ComplexType) :
    Yields (schema.baseChain c) (fun _ => True) fun e => e.isMissingSet = false := by
  apply (schema.baseChain_fails c).causes
  rintro _ ⟨name, base, rfl⟩
  rfl

theorem property_spares (schema : Schema) (c : ComplexType) (name : String) :
    Yields (schema.property c name) (fun _ => True) fun e => e.isMissingSet = false := by
  apply (schema.baseChain_spares c).bind
  intro chain _
  split
  · exact Yields.ok trivial
  · exact Yields.error rfl

theorem keyProperties_spares (schema : Schema) (c : ComplexType) :
    Yields (schema.keyProperties c) (fun _ => True) fun e => e.isMissingSet = false := by
  apply (schema.baseChain_spares c).bind
  intro chain _
  split
  · refine (Yields.mapM (R := fun _ => True) ?_).mono fun _ _ => trivial
    intro name _
    exact (schema.property_spares c name).bind fun _ _ => Yields.ok trivial
  · exact Yields.error rfl

theorem resolveCast_spares (schema : Schema) (c : ComplexType) (target : String) :
    Yields (schema.resolveCast c target) (fun _ => True) fun e => e.isMissingSet = false := by
  unfold resolveCast
  dsimp only
  split
  · exact Yields.ok trivial
  · split
    · exact Yields.ok trivial
    · exact Yields.error rfl

end Schema

theorem Literal.scalar_spares (schema : Schema) (value : Value) (type : TypeRef) :
    Yields (scalar schema value type) (fun _ => True) fun e => e.isMissingSet = false := by
  have written (text : Option String) :
      Yields ((text.map pure).getD (.error (mismatch value type))) (fun _ => True)
        fun e => e.isMissingSet = false := by
    cases text with
    | some text => exact Yields.ok trivial
    | none => exact Yields.error rfl
  apply (schema.kind_spares type.innermost).bind
  intro kind _
  cases kind with
  | raw => cases value <;> exact Yields.ok trivial
  | primitive =>
    cases type.innermost with
    | named scope name => exact written _
    | collection element => exact Yields.error rfl
  | enum e => exact written _
  | complex c => exact Yields.error rfl

mutual

theorem Literal.serialize_spares (schema : Schema) : (value : Value) → (type : TypeRef) →
    Yields (serialize schema value type) (fun _ => True) fun e => e.isMissingSet = false
  | .null, _ => Yields.ok trivial
  | .raw _, _ => Yields.ok trivial
  | .list items, type => by
    rw [serialize]
    split
    · exact Yields.error rfl
    · apply (Literal.serializeItems_spares schema items type.elementOrSelf).bind
      exact fun _ _ => Yields.ok trivial
  | .bool _, _ | .int _, _ | .float _, _ | .decimal _, _ | .string _, _ | .guid _, _
  | .dateTimeOffset _, _ | .date _, _ | .timeOfDay _, _ | .duration _, _ | .binary _, _
  | .member _, _ => by
    rw [serialize.eq_def]
    exact Literal.scalar_spares schema _ _

theorem Literal.serializeItems_spares (schema : Schema) : (items : List Value) →
    (type : TypeRef) →
    Yields (serializeItems schema items type) (fun _ => True) fun e => e.isMissingSet = false
  | [], _ => Yields.ok trivial
  | item :: rest, type => by
    rw [serializeItems]
    apply (Literal.serialize_spares schema item type).bind
    intro text _
    apply (Literal.serializeItems_spares schema rest type).bind
    exact fun _ _ => Yields.ok trivial

end

theorem EntitySet.boundFunction_spares (set : EntitySet) (binding : TypeRef) (name : String) :
    Yields (set.boundFunction binding name) (fun _ => True) fun e => e.isMissingSet = false := by
  rw [boundFunction]
  split
  · exact Yields.ok trivial
  · exact Yields.error rfl

theorem Clause.key_spares (clause : Clause) :
    Yields clause.key (fun _ => True) fun e => e.isMissingSet = false := by
  have called : Yields clause.call (fun _ => True) fun e => e.isMissingSet = false := by
    rw [call]
    split
    · exact Yields.ok trivial
    · exact Yields.error rfl
  apply called.bind
  intro c _
  split
  · exact Yields.ok trivial
  · exact Yields.error rfl

namespace CallOf

open ODataRequest.Expr

/-- A sub-query function among the given expressions misses the entity set, and nothing else. -/
def Traces (schema : Schema) (given : Expr → Prop) (cause : Error) : Prop :=
  cause.isMissingSet = true → ∃ build type,
    given (.directive (.subQueries build)) ∧ build schema type = .error cause

variable {schema : Schema} {given : Expr → Prop} {c : Call}

theorem traces_of_other {cause : Error} (other : cause.isMissingSet = false) :
    Traces schema given cause := by
  intro missing
  rw [other] at missing
  cases missing

theorem directiveOf_traces (argument : Argument) :
    Yields (c.directiveOf argument) (fun d => argument.1 = .directive d) (Traces schema given) := by
  cases held : c.directiveOf argument with
  | ok d => exact Yields.ok (directiveOf_eq held)
  | error e =>
    apply Yields.error
    unfold directiveOf at held
    split at held
    · split at held
      · cases held
      · cases held
        exact traces_of_other rfl
    · cases held
      exact traces_of_other rfl

theorem addOption_traces (options : Options) (key : String) (e : Expr) (type : TypeRef) :
    Yields (addOption options key e type) (fun _ => True) (Traces schema given) := by
  rw [addOption]
  split
  · exact Yields.error (traces_of_other rfl)
  · exact Yields.ok trivial

theorem addClause_traces (options : Options) (e : Expr) :
    Yields (addClause options e) (fun _ => True) (Traces schema given) := by
  apply ((Clause.key_spares ⟨e⟩).causes fun _ => traces_of_other).bind
  intro key _
  exact addOption_traces options key e _

theorem expandedType_traces (type : TypeRef) :
    Yields (expandedType type) (fun _ => True) (Traces schema given) := by
  rw [expandedType]
  split
  · cases type with
    | named scope name => exact Yields.error (traces_of_other rfl)
    | collection element =>
      cases element with
      | named scope name => exact Yields.ok trivial
      | collection inner => exact Yields.error (traces_of_other rfl)
  · exact Yields.ok trivial

theorem addOptions_traces {argument : Argument} (made : MadeOf given argument.1) (target : Expr)
    (options : Options) :
    Yields (c.addOptions schema target options argument) (fun _ => True)
      (Traces schema given) := by
  apply (directiveOf_traces argument).bind
  intro d held
  have holder : given (.directive d) := given_of_directive (held ▸ made)
  cases d with
  | countOption =>
    dsimp only
    split
    · exact addOption_traces options _ _ _
    · exact Yields.error (traces_of_other rfl)
  | subQueries build =>
    dsimp only
    split
    · exact Yields.error (traces_of_other rfl)
    · rename_i type _
      apply (expandedType_traces type).bind
      intro expanded _
      have built : Yields (build schema expanded) (fun _ => True) (Traces schema given) := by
        cases ran : build schema expanded with
        | ok queries => exact Yields.ok trivial
        | error e => exact Yields.error fun _ => ⟨build, expanded, holder, ran⟩
      apply built.bind
      intro queries _
      exact Yields.foldlM trivial fun options _ e _ => addClause_traces options e
  | _ => exact Yields.error (traces_of_other rfl)

theorem expand_traces {before after : List Argument} {argument : Argument}
    (made : ∀ a ∈ argument :: after, MadeOf given a.1) :
    Yields (c.expand schema before argument after) (fun _ => True) (Traces schema given) := by
  rw [expand]
  split
  · exact Yields.error (traces_of_other rfl)
  · rename_i target p _
    have options : Yields ((argument :: after.takeWhile isOption).foldlM
        (c.addOptions schema target) []) (fun _ => True) (Traces schema given) := by
      apply Yields.foldlM trivial
      intro options _ a member
      refine addOptions_traces (made a ?_) target options
      exact (List.cons_sublist_cons.mpr (List.takeWhile_sublist _)).subset member
    exact options.bind fun _ _ => Yields.ok trivial

theorem format_traces (format : Format) (v : Value) (name : String) :
    Yields (format.apply v name) (fun _ => True) (Traces schema given) := by
  unfold Format.apply
  dsimp only
  split
  · split
    · exact Yields.error (traces_of_other rfl)
    · exact Yields.ok trivial
  · exact Yields.ok trivial
  · split
    · exact Yields.error (traces_of_other rfl)
    · exact Yields.ok trivial
  · exact Yields.error (traces_of_other rfl)

theorem formatArgument_traces (format : Format) (argument : Argument) :
    Yields (formatArgument format argument) (fun _ => True) (Traces schema given) := by
  unfold formatArgument
  split
  · exact Yields.ok trivial
  · exact Yields.ok trivial
  · split
    · exact Yields.error (traces_of_other rfl)
    · exact (format_traces format _ _).map fun _ _ => trivial
  · exact Yields.ok trivial

theorem round_traces (made : Made given c) :
    Yields (c.round schema) (fun _ => True) (Traces schema given) := by
  rw [round]
  split
  · exact Yields.ok trivial
  · rename_i before argument after found
    have parts : ∀ a ∈ argument :: after, MadeOf given a.1 := by
      intro a member
      apply made.2 a
      rw [splitDirective_eq found]
      exact List.mem_append_right _ member
    apply (directiveOf_traces argument).bind
    intro d _
    cases d with
    | customName name => exact Yields.ok trivial
    | result type => exact Yields.ok trivial
    | format format =>
      have args : Yields ((before ++ after).mapM (formatArgument format)) (fun _ => True)
          (Traces schema given) :=
        (Yields.mapM fun a _ => formatArgument_traces format a).mono fun _ _ => trivial
      exact args.bind fun _ _ => Yields.ok trivial
    | rawPaths paths =>
      cases after with
      | nil => exact Yields.error (traces_of_other rfl)
      | cons executor rest =>
        apply (directiveOf_traces executor).bind
        intro d' _
        cases d' with
        | rawText write => exact Yields.ok trivial
        | _ => exact Yields.error (traces_of_other rfl)
    | rawText write => exact Yields.error (traces_of_other rfl)
    | subQueries build => exact expand_traces parts
    | countOption => exact expand_traces parts

theorem reduce_traces (closed : Closed given) (made : Made given c) :
    Yields (c.reduce schema) (fun _ => True) (Traces schema given) := by
  fun_induction reduce schema c with
  | case1 c e step => exact (round_traces made).of_eq_error step
  | case2 => exact Yields.ok trivial
  | case3 => exact Yields.ok trivial
  | case4 c next step ih => exact ih (round_made closed made step)

end CallOf

namespace Renderer

variable {renderer : Renderer} {rendered : Expr → Prop}

theorem explained_of_other {cause : Error} (other : cause.isMissingSet = false) :
    renderer.Explained rendered cause := by
  intro missing
  rw [other] at missing
  cases missing

theorem explained_of_spares {α : Type} {x : Except Error α} {P : α → Prop}
    (spares : Yields x P fun e => e.isMissingSet = false) :
    Yields x P (renderer.Explained rendered) := spares.causes fun _ => explained_of_other

theorem serializer_explained (renderer : Renderer) (rendered : Expr → Prop) (value : Value)
    (type : TypeRef) :
    Yields (renderer.serializer renderer.schema value type) (fun _ => True)
      (renderer.Explained rendered) := by
  cases written : renderer.serializer renderer.schema value type with
  | ok text => exact Yields.ok trivial
  | error e => exact Yields.error fun _ => .serializer value type written

theorem reduce_explained (descends : Descends rendered) {c : Call} (present : rendered (.call c)) :
    Yields (c.reduce renderer.schema) (fun _ => True) (renderer.Explained rendered) := by
  apply (CallOf.reduce_traces (CallOf.within_closed c) (CallOf.made_of_parts c)).causes
  intro cause traces missing
  rcases traces missing with ⟨build, type, within, failed⟩
  have precedes : Expr.Precedes (.directive (.subQueries build)) (.call c) :=
    Expr.MadeOf.given within
  exact .subQueries build type (descends _ _ precedes present) failed

theorem checkCall_explained (c : Call) :
    Yields (checkCall c) (fun _ => True) (renderer.Explained rendered) := by
  have valid : Yields c.signature.validate (fun _ => True) (renderer.Explained rendered) := by
    rw [Signature.validate]
    split
    · exact Yields.error (explained_of_other rfl)
    · exact Yields.ok trivial
  apply valid.bind
  intro _ _
  split
  · exact Yields.error (explained_of_other rfl)
  · exact Yields.ok trivial

/-- Wherever the expression is rendered, a failure has its explanation. -/
def Explainable (renderer : Renderer) (rendered : Expr → Prop) (e : Expr) : Prop :=
  ∀ scope, Yields (renderer.evaluate e scope).outcome (fun _ => True) (renderer.Explained rendered)

theorem receiver_explained {c : Call} (scope : Scope)
    (each : ∀ e, c.receiver = some e → renderer.Explainable rendered e) :
    Yields (renderer.receiverRendering c scope).outcome (fun _ => True)
      (renderer.Explained rendered) := by
  rw [receiverRendering]
  split
  · rename_i receiver found
    exact each receiver found _
  · exact Yields.ok trivial

theorem operand_explained {c : Call} {scope : Scope} {argument : Expr × Parameter}
    (each : renderer.Explainable rendered argument.1) :
    Yields (renderer.operand c scope argument).outcome (fun _ => True)
      (renderer.Explained rendered) := by
  rw [operand]
  split
  · exact Yields.error (explained_of_other rfl)
  · exact (each scope.atTop).traced fun _ _ => Yields.ok trivial

theorem explainable_call {c c' : Call} (reduced : c.reduce renderer.schema = .ok (.call c'))
    (receiver : ∀ e, c'.receiver = some e → renderer.Explainable rendered e)
    (arguments : ∀ argument ∈ c'.args, renderer.Explainable rendered argument.1) :
    renderer.Explainable rendered (.call c) := by
  intro scope
  have operands : Yields (c'.args.mapM (renderer.operand c' scope)).outcome (fun _ => True)
      (renderer.Explained rendered) := by
    refine (Yields.mapM_traced (R := fun _ => True) ?_).mono fun _ _ => trivial
    exact fun argument member => operand_explained (arguments argument member)
  rw [evaluate_call reduced]
  apply Yields.traced (checkCall_explained c')
  intro _ _
  exact (receiver_explained scope receiver).traced fun _ _ => operands.traced
    fun _ _ => Yields.ok trivial

theorem explainable_rawText {c : Call} {paths : List (String × Expr)}
    {write : List (String × String) → String}
    (reduced : c.reduce renderer.schema = .ok (.rawText paths write))
    (each : ∀ path ∈ paths, renderer.Explainable rendered path.2) :
    renderer.Explainable rendered (.call c) := by
  intro scope
  have texts : Yields (paths.mapM renderer.pathText).outcome (fun _ => True)
      (renderer.Explained rendered) := by
    refine (Yields.mapM_traced (R := fun _ => True) ?_).mono fun _ _ => trivial
    exact fun path member => (each path member .it).traced fun _ _ => Yields.ok trivial
  rw [evaluate_rawText reduced]
  apply texts.traced
  intro texts _
  exact (renderer.serializer_explained rendered (.raw (write texts)) .raw).traced
    fun _ _ => Yields.ok trivial

theorem explainable_assembled {parts : List Part} {result : Result}
    (each : ∀ e, PartOf.expr e ∈ parts → renderer.Explainable rendered e) :
    renderer.Explainable rendered (.assembled parts result) := by
  intro scope
  have texts : Yields (parts.mapM (renderer.partRendering scope)).outcome (fun _ => True)
      (renderer.Explained rendered) := by
    refine (Yields.mapM_traced (R := fun _ => True) ?_).mono fun _ _ => trivial
    intro part member
    cases part with
    | text text => exact Yields.ok trivial
    | expr e => exact each e member scope
  rw [evaluate_assembled]
  exact texts.traced fun _ _ => Yields.ok trivial

theorem evaluate_explained (descends : Descends rendered) {e : Expr} (present : rendered e) :
    renderer.Explainable rendered e := by
  induction e using Expr.precedes_wellFounded.induction with
  | _ e ih =>
    have below : ∀ inner, Expr.Precedes inner e → renderer.Explainable rendered inner :=
      fun inner precedes => ih inner precedes (descends inner e precedes present)
    cases e with
    | call c =>
      cases reduced : c.reduce renderer.schema with
      | error cause =>
        intro scope
        rw [evaluate_irreducible reduced]
        exact (reduce_explained descends present).of_eq_error reduced
      | ok remaining =>
        -- What is rendered is what the call reduces to, and that comes before the call.
        cases remaining with
        | rawText paths write =>
          exact explainable_rawText reduced fun path member =>
            below path.2 (CallOf.precedes_of_path reduced member)
        | call c' =>
          exact explainable_call reduced
            (fun e found => below e (CallOf.precedes_of_receiver reduced found))
            fun argument member => below argument.1 (CallOf.precedes_of_arg reduced member)
    | assembled parts result =>
      exact explainable_assembled fun e member => below e (.assembled member)
    | root symbol =>
      intro scope
      rw [evaluate_root]
      exact Yields.ok trivial
    | property parent name result =>
      intro scope
      cases result with
      | undecided overloads =>
        rw [evaluate_undecided]
        exact Yields.error (explained_of_other rfl)
      | type type =>
        cases parent with
        | none =>
          rw [← Expr.member, evaluate_bare_member]
          exact Yields.ok trivial
        | some parent =>
          rw [← Expr.member, evaluate_member]
          exact (below parent .parent _).traced fun _ _ => Yields.ok trivial
    | value v type =>
      intro scope
      rw [evaluate_value]
      exact (renderer.serializer_explained rendered v _).traced fun _ _ => Yields.ok trivial
    | aliased param type =>
      intro scope
      rw [evaluate_aliased]
      exact Yields.ok trivial
    | directive d =>
      intro scope
      rw [evaluate_directive]
      exact Yields.error (explained_of_other rfl)
    | inContext inner context =>
      intro scope
      rw [evaluate_inContext]
      exact below inner .inContext _
    | named inner symbol =>
      intro scope
      rw [evaluate_named]
      exact (below inner .named _).traced fun _ _ => Yields.ok trivial

theorem render_explained (descends : Descends rendered) {e : Expr} (present : rendered e) :
    Yields (renderer.render e).outcome (fun _ => True) (renderer.Explained rendered) :=
  (evaluate_explained descends present .it).traced fun _ _ => Yields.ok trivial

def Refers (rendered : Expr → Prop) (params : List Alias) : Prop :=
  ∀ param ∈ params, ∀ e, param.payload = .reference e → rendered e

theorem refers_met (descends : Descends rendered) {e : Expr} (present : rendered e) :
    Refers rendered (renderer.render e).met := by
  intro param member target refers
  rw [met_render] at member
  have below : Expr.Below target e := reference_precedes member refers
  clear member refers
  induction below with
  | single precedes => exact descends _ _ precedes present
  | tail _ precedes ih => exact ih (descends _ _ precedes present)

theorem Refers.append {params others : List Alias} (first : Refers rendered params)
    (second : Refers rendered others) : Refers rendered (params ++ others) := by
  intro param member
  rcases List.mem_append.mp member with member | member
  · exact first param member
  · exact second param member

theorem Refers.of_subset {params others : List Alias} (refers : Refers rendered others)
    (subset : params ⊆ others) : Refers rendered params :=
  fun param member => refers param (subset member)

theorem aliasText_explained (descends : Descends rendered) {param : Alias}
    (refers : Refers rendered [param]) :
    Yields (renderer.aliasText param).outcome (fun _ => True) (renderer.Explained rendered) ∧
      Refers rendered (renderer.aliasText param).met := by
  unfold aliasText
  split
  · exact ⟨renderer.serializer_explained rendered _ _, nofun⟩
  · exact ⟨Yields.ok trivial, nofun⟩
  · rename_i e payload
    have present : rendered e := refers param List.mem_cons_self e payload
    exact ⟨render_explained descends present, refers_met descends present⟩

theorem addBinding_explained (bindings : List (String × String)) (name text : String) :
    Yields (addBinding bindings name text) (fun _ => True) (renderer.Explained rendered) := by
  rw [addBinding]
  split
  · exact Yields.ok trivial
  · split
    · exact Yields.ok trivial
    · exact Yields.error (explained_of_other rfl)

theorem bindPending_explained (descends : Descends rendered) {met : List AliasId}
    {pending : List Alias} (refers : Refers rendered pending) (bindings : List (String × String)) :
    Yields (renderer.bindPending met pending bindings) (fun _ => True)
      (renderer.Explained rendered) := by
  fun_induction bindPending renderer met pending bindings with
  | case1 => exact Yields.ok trivial
  | case2 met bindings param rest text e failed =>
    have first : Refers rendered [param] := refers.of_subset (by simp)
    exact (aliasText_explained descends first).1.of_eq_error failed
  | case3 met bindings param rest _ text written e failed =>
    exact (addBinding_explained bindings param.name text).of_eq_error failed
  | case4 met bindings param rest _ fresh text written bindings' added ih =>
    have first : Refers rendered [param] := refers.of_subset (by simp)
    have others : Refers rendered rest := refers.of_subset (List.subset_cons_self _ _)
    apply ih
    exact others.append ((aliasText_explained descends first).2.of_subset fun _ => mem_of_mem_unmet)

end Renderer
end ODataRequest
