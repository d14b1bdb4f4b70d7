import ODataRequest.Proofs.Comparisons
import ODataRequest.Proofs.Literals
namespace ODataRequest

/-!
Formats that write literals. A format of one's own takes the place of the serializer: constants
become raw text before a comparison is rendered. Where it writes what the standard serializer
would have written, it changes nothing.
-/

open CallOf (Argument)

def Format.each (type : TypeRef) (write : Value → String) : Format := ⟨type, .item write⟩

/-- A value is written as its literal of the type, a list by its items. -/
def Echoes (schema : Schema) (write : Value → String) (v : Value) (type : TypeRef) : Prop :=
  match v with
  | .list items => ∀ item ∈ items, item.isList = false ∧
      ∀ text, Literal.serialize schema item type.elementOrSelf = .ok text → write item = text
  | v => ∀ text, Literal.serialize schema v type = .ok text → write v = text

section Formatting

variable {schema : Schema} {write : Value → String} {v : Value} {type element : TypeRef}
  {text name : String}

theorem apply_each (echoes : Echoes schema write v type)
    (serialized : Literal.serialize schema v type = .ok text) :
    (Format.each element write).apply v name = .ok text := by
  cases v with
  | list items =>
    have flat : items.any Value.isList = false :=
      List.any_eq_false.mpr fun item member => by simp [(echoes item member).1]
    obtain ⟨_, literals, written, rfl⟩ := Literal.serialize_list_eq_ok.mp serialized
    have same : Literal.serializeItems schema items type.elementOrSelf = .ok (items.map write) := by
      apply Literal.serializeItems_map
      intro item member
      obtain ⟨literal, one⟩ := Literal.exists_literal written item member
      rw [(echoes item member).2 literal one, one]
    cases written.symm.trans same
    simp only [Format.apply, Format.each, flat]
    rfl
  | _ => exact congrArg Except.ok (echoes text serialized)

theorem interchangeable_raw {type : Option TypeRef}
    (serialized : Literal.serialize schema v (type.getD v.defaultType) = .ok text) :
    (Renderer.standard schema).Interchangeable (.value v type) (.raw text) := by
  constructor
  case evaluated =>
    intro scope
    have literal : (Renderer.standard schema).serializer (Renderer.standard schema).schema v
        (type.getD v.defaultType) = .ok text := serialized
    have first : (Renderer.standard schema).evaluate (.value v type) scope =
        pure (.ofText text) := by
      rw [Renderer.evaluate_value, literal]
      rfl
    have second : (Renderer.standard schema).evaluate (.raw text) scope = pure (.ofText text) := by
      rw [Expr.raw, Expr.typedConstant, Renderer.evaluate_value]
      rfl
    rw [first, second]
    exact .refl _
  case parentheses =>
    intro layout
    cases layout <;> rfl

theorem formatArgument_value {format : Format} {type : Option TypeRef} {p : Parameter}
    (shape : v.isList = p.declaresList) (applied : format.apply v p.name = .ok text)
    (present : v ≠ .null) (unwritten : ∀ raw, v ≠ .raw raw) :
    CallOf.formatArgument format (.value v type, p) = .ok (.raw text, p) := by
  have fitting : (v.isList != p.declaresList) = false := by rw [shape, bne_self_eq_false]
  cases v with
  | null => exact absurd rfl present
  | raw raw => exact absurd rfl (unwritten raw)
  | _ =>
    simp only [CallOf.formatArgument, fitting, applied]
    rfl

/-- What a format makes of an argument that can be rendered: one that is rendered alike. -/
structure Formatted (schema : Schema) (format : Format) (argument argument' : Argument) : Prop where
  formatted : CallOf.formatArgument format argument = .ok argument'
  parameter : argument'.2 = argument.2
  interchangeable : (Renderer.standard schema).Interchangeable argument.1 argument'.1

theorem exists_formatted {e : Expr} {p : Parameter} {scope : Scope} {rendering : Rendering}
    (shape : ∀ v type, e = .value v type → v.isList = p.declaresList)
    (echoes : ∀ v type, e = .value v type → Echoes schema write v (type.getD v.defaultType))
    (rendered : ((Renderer.standard schema).evaluate e scope).outcome = .ok rendering) :
    ∃ argument', Formatted schema (.each element write) (e, p) argument' := by
  have kept (same : CallOf.formatArgument (.each element write) (e, p) = .ok (e, p)) :
      ∃ argument', Formatted schema (.each element write) (e, p) argument' :=
    ⟨(e, p), same, rfl, .refl e⟩
  cases e with
  | value v type =>
    rw [Renderer.evaluate_value, Traced.outcome_bind_eq_ok] at rendered
    obtain ⟨text, serialized, _⟩ := rendered
    have applied : (Format.each element write).apply v p.name = .ok text :=
      apply_each (echoes v type rfl) serialized
    by_cases left_alone : v = .null ∨ ∃ raw, v = .raw raw
    · rcases left_alone with rfl | ⟨raw, rfl⟩
      · exact kept rfl
      · exact kept rfl
    · simp only [not_or, not_exists] at left_alone
      exact ⟨(.raw text, p), formatArgument_value (shape v type rfl) applied left_alone.1
        left_alone.2, rfl, interchangeable_raw serialized⟩
  | _ => exact kept rfl

end Formatting

namespace Comparison

def singles : Comparison → List Expr
  | compare _ left right => [left, right]
  | isIn left _ => [left]

/-- No constant but the list to look in is a list, and a function writes every constant of the
call as its literal. -/
structure Echoed (schema : Schema) (write : Value → String) (comparison : Comparison) : Prop where
  single : ∀ v type, .value v type ∈ comparison.singles → v.isList = false
  literal : ∀ v type, .value v type ∈ comparison.sides.map Prod.fst →
    Echoes schema write v (type.getD v.defaultType)

variable {schema : Schema} {write : Value → String} {comparison : Comparison} {format : Format}
  {args : List Argument}

theorem shape_of_single (single : ∀ v type, .value v type ∈ comparison.singles → v.isList = false)
    {v : Value} {type : Option TypeRef} {p : Parameter}
    (member : (.value v type, p) ∈ comparison.sides) : v.isList = p.declaresList := by
  have unmarked {e : Expr} {own : Option TypeRef} (typed : e.expecting own = .value v type) :
      ∃ given, e = .value v given := by
    cases e with
    | value w given => cases given <;> cases typed <;> exact ⟨_, rfl⟩
    | _ => cases typed
  cases comparison with
  | compare operator left right =>
    rcases List.mem_pair.mp member with same | same
    · obtain ⟨typed, rfl⟩ := Prod.mk.inj same
      obtain ⟨given, rfl⟩ := unmarked typed.symm
      exact single v given List.mem_cons_self
    · obtain ⟨typed, rfl⟩ := Prod.mk.inj same
      obtain ⟨given, rfl⟩ := unmarked typed.symm
      exact single v given (.tail _ (.head _))
  | isIn left values =>
    rcases List.mem_pair.mp member with same | same
    · obtain ⟨rfl, rfl⟩ := Prod.mk.inj same
      exact single v type List.mem_cons_self
    · cases same
      rfl

theorem call_laysOut (formatted : List.Forall₂ (Formatted schema format) comparison.sides args) :
    (comparison.call (some format)).LaysOut schema comparison.signature.layout
      (args.map Prod.fst) := by
  let last : Argument := (.directive (.format format), Builtin.format)
  let worked : Call := { comparison.call (some format) with
    args := args
    signature := (comparison.call (some format)).signatureWithout [last] }
  have given : (comparison.call (some format)).args = comparison.sides ++ [last] := rfl
  have mapped : comparison.sides.mapM (CallOf.formatArgument format) = .ok args :=
    mapM_eq_ok.mpr (formatted.imp fun _ _ one => one.formatted)
  have bare : worked.Bare comparison.signature.layout (args.map Prod.fst) := by
    constructor
    case laid => rfl
    case receiver => rfl
    case checked => cases comparison <;> rfl
    case plain =>
      have back : List.Forall₂ (fun made side => Formatted schema format side made) args
          comparison.sides := .flip formatted
      intro argument member
      obtain ⟨side, present, one⟩ := exists_of_forall₂ back member
      rw [one.parameter]
      exact plain_sides present
    case given => rfl
  refine CallOf.laysOut_of_last rfl given rfl (fun argument => plain_sides) ?_ bare
  intro split
  rw [CallOf.round, split]
  change (do
    let args ← (comparison.sides ++ []).mapM (CallOf.formatArgument format)
    pure (Round.next { worked with args := args })) = _
  rw [List.append_nil, mapped]
  rfl

/-- A format that writes each constant as its literal can be left out. The serializer is the
standard one, which passes the raw text of a format on and writes lists item by item; one that
does neither could tell the two apart. -/
theorem render_echoed {schema : Schema} {write : Value → String} {comparison : Comparison}
    (echoed : comparison.Echoed schema write) (type : TypeRef) :
    ∃ e e', comparison.build none = .ok e ∧
      comparison.build (some (.each type write)) = .ok e' ∧
      ∀ text, ((Renderer.standard schema).render e).outcome = .ok text →
        ((Renderer.standard schema).render e').outcome = .ok text := by
  refine ⟨_, _, comparison.build_eq none, comparison.build_eq _, ?_⟩
  intro text rendered
  have each : ∀ argument ∈ comparison.sides,
      ∃ argument', Formatted schema (.each type write) argument argument' := by
    rintro ⟨e, p⟩ member
    have operand : e ∈ comparison.sides.map Prod.fst := List.mem_map_of_mem member
    obtain ⟨_, evaluated⟩ := Renderer.evaluate_operand comparison.bare rendered operand
    refine exists_formatted (fun v own same => ?_) (fun v own same => ?_) evaluated
    · exact shape_of_single echoed.single (same ▸ member)
    · exact echoed.literal v own (same ▸ operand)
  obtain ⟨args, formatted⟩ := exists_forall₂_iff.mpr each
  have alike : List.Forall₂ (Renderer.standard schema).Interchangeable
      (comparison.sides.map Prod.fst) (args.map Prod.fst) := by
    rw [List.forall₂_map_left_iff, List.forall₂_map_right_iff]
    exact formatted.imp fun _ _ one => one.interchangeable
  have same := Renderer.interchangeable_of_laysOut comparison.bare.laysOut
    (call_laysOut formatted) alike
  exact (same.render.outcome text).mp rendered

def ages : Comparison := .isIn (.member none "Age" .int32) [.int 18, .int 21, .null]

theorem echoed_ages : ages.Echoed .empty Value.display := by
  constructor
  case single =>
    intro v type member
    cases List.mem_singleton.mp member
  case literal =>
    intro v type member
    rcases List.mem_pair.mp member with same | same
    · cases same
    · cases same
      intro item present
      simp only [List.mem_cons, List.not_mem_nil, or_false] at present
      rcases present with rfl | rfl | rfl
      all_goals
        refine ⟨rfl, fun text serialized => ?_⟩
        cases serialized
        rfl

theorem render_ages : ∃ e, ages.build none = .ok e ∧
    ((Renderer.standard .empty).render e).outcome = .ok "Age in (18,21,null)" := by
  refine ⟨_, ages.build_eq none, ?_⟩
  have laid : ((Renderer.standard .empty).layOut (.between "in") (ages.sides.map Prod.fst)
      .it).outcome = .ok ⟨none, some "Age in (18,21,null)"⟩ := by
    refine Renderer.layOut_pair.mpr ⟨(none, "Age"), (none, "(18,21,null)"), ?_, ?_, rfl⟩
    · rw [Renderer.laidOut, Expr.member, Renderer.evaluate]
      rfl
    · rw [Renderer.laidOut, Renderer.evaluate_value]
      rfl
  rw [Renderer.render]
  exact Traced.outcome_bind_eq_ok.mpr
    ⟨_, ((Renderer.evaluate_bare ages.bare .it).outcome _).mpr laid, rfl⟩

theorem render_echoed_ages : ages.Echoed .empty Value.display ∧
    ∃ e, ages.build (some (.each .int32 Value.display)) = .ok e ∧
      ((Renderer.standard .empty).render e).outcome = .ok "Age in (18,21,null)" := by
  obtain ⟨e, e', built, built', same⟩ := render_echoed echoed_ages .int32
  obtain ⟨plain, made, rendered⟩ := render_ages
  cases built.symm.trans made
  exact ⟨echoed_ages, e', built', same _ rendered⟩

end Comparison
end ODataRequest
