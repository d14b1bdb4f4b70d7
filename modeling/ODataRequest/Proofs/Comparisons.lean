import ODataRequest.Proofs.Layouts
import ODataRequest.Proofs.Pairing
import ODataRequest.Clause.Filter
namespace ODataRequest

/-!
Comparisons. Both sides have one generic type, and the first side that has a type decides it; so
an untyped constant takes the type of the other side, on whichever side it stands.
-/

namespace Table

variable {α : Type} {name other : String} {value : α}

theorem lookupNamed_insertNamed (entries : List (String × α)) :
    lookupNamed other (insertNamed name value entries) =
      if name = other then some value else lookupNamed other entries := by
  induction entries with
  | nil => rfl
  | cons head rest ih =>
    obtain ⟨listed, old⟩ := head
    unfold insertNamed
    split
    · rfl
    · rename_i low
      split
      · rename_i high
        have different : listed ≠ name := by
          rintro rfl
          exact low high
        rw [lookupNamed, lookupNamed, ih]
        by_cases same : name = other
        · rw [if_pos same, if_pos same, if_neg (same ▸ different)]
        · rw [if_neg same, if_neg same]
      · rename_i high
        cases eq_of_not_lt low high
        rw [lookupNamed, lookupNamed]
        by_cases same : name = other
        · rw [if_pos same, if_pos same]
        · rw [if_neg same, if_neg same, if_neg same]

theorem get?_insertNew (table : Table α) : (table.insertNew name value).get? other =
    (table.get? other).or (if name = other then some value else none) := by
  unfold insertNew contains
  cases present : table.get? name with
  | some old =>
    rw [Option.isSome_some, if_pos rfl]
    by_cases same : name = other
    · rw [← same, present]
      rfl
    · rw [if_neg same, Option.or_none]
  | none =>
    rw [Option.isSome_none, if_neg Bool.false_ne_true, get?, insert, lookupNamed_insertNamed]
    by_cases same : name = other
    · rw [if_pos same, if_pos same, ← same, present]
      rfl
    · rw [if_neg same, if_neg same, Option.or_none]
      rfl

end Table

namespace Signature

theorem bindingOf?_generic {p : Parameter} {name : String} {nullability : Nullability}
    (kind : p.kind = .operand (.generic name) nullability) (e : Expr) :
    bindingOf? (e, p) = e.concreteType?.map (name, ·) := by
  rw [bindingOf?, kind]
  cases e.concreteType? <;> rfl

theorem get?_bind (pairs : List (Expr × Parameter)) (name : String) :
    (bind pairs).get? name = lookupNamed name (pairs.filterMap bindingOf?) := by
  have folded (entries : List (String × TypeRef)) (table : Table TypeRef) :
      (entries.foldl (fun table entry => table.insertNew entry.1 entry.2) table).get? name =
        (table.get? name).or (lookupNamed name entries) := by
    induction entries generalizing table with
    | nil => exact (Option.or_none ..).symm
    | cons entry rest ih =>
      rw [List.foldl_cons, ih, Table.get?_insertNew, Option.or_assoc, lookupNamed]
      by_cases same : entry.1 = name
      · rw [if_pos same, if_pos same]
        rfl
      · rw [if_neg same, if_neg same]
        rfl
  rw [bind, folded]
  rfl

end Signature

namespace Expr

/-- Beside another expression an untyped constant takes the type of that. -/
def beside (e other : Expr) : Expr := e.expecting other.concreteType?

theorem expecting_own_or (e : Expr) (type : Option TypeRef) :
    e.expecting (e.concreteType?.or type) = e.expecting type := by
  cases e with
  | value v own => cases own <;> rfl
  | _ => rfl

theorem expecting_own (e : Expr) : e.expecting e.concreteType? = e := by
  have own := e.expecting_own_or none
  rwa [Option.or_none, expecting_none] at own

theorem expecting_or_own (e : Expr) (type : Option TypeRef) :
    e.expecting (type.or e.concreteType?) = e.expecting type := by
  cases e with
  | value v own =>
    cases own with
    | none => exact congrArg _ (Option.or_none ..)
    | some => rfl
  | _ => rfl

end Expr

def formatArguments (format : Option Format) : List (Expr × Parameter) :=
  (Filter.formatArgs format).map (·, Builtin.format)

theorem formatArguments_leavesTypes {format : Option Format} {pair : Expr × Parameter}
    (member : pair ∈ formatArguments format) : Signature.leavesTypes pair.2 = true := by
  obtain ⟨e, _, rfl⟩ := List.mem_map.mp member
  rfl

theorem bind_formatArguments (pairs : List (Expr × Parameter)) (format : Option Format) :
    Signature.bind (pairs ++ formatArguments format) = Signature.bind pairs := by
  have none_bound : (formatArguments format).filterMap Signature.bindingOf? = [] :=
    List.filterMap_eq_nil_iff.mpr fun pair member =>
      Signature.bindingOf?_of_leavesTypes (formatArguments_leavesTypes member)
  rw [Signature.bind, List.filterMap_append, none_bound, List.append_nil, ← Signature.bind]

/-- A format is an argument more and changes nothing about the others. -/
theorem apply_formatted {s : Signature} {p q : Parameter} (left right : Expr)
    (format : Option Format) (parameters : s.parameters = [p, q, Builtin.format])
    (single : ∀ r ∈ [p, q], r.repeated = false ∧ r.optional = false) :
    s.apply none ([left, right] ++ Filter.formatArgs format) =
      .ok (.call ⟨none, [(left, p), (right, q)].map
        (Signature.typeConstant (Signature.bind [(left, p), (right, q)])) ++
          formatArguments format, s, Signature.bind [(left, p), (right, q)]⟩) := by
  have last : Signature.Pairing [Builtin.format] (Filter.formatArgs format)
      (formatArguments format) [] := by
    cases format with
    | none => exact .passed rfl rfl nofun .done
    | some format => exact .taken rfl (fun _ => rfl) .done
  have walk : Signature.Pairing s.parameters ([left, right] ++ Filter.formatArgs format)
      ([(left, p), (right, q)] ++ formatArguments format) [] := by
    rw [parameters]
    exact Signature.pairing_required single rfl last
  have kept (bindings : Table TypeRef) :
      (formatArguments format).map (Signature.typeConstant bindings) = formatArguments format := by
    rw [List.map_congr_left fun pair member =>
      Signature.typeConstant_of_leavesTypes bindings (formatArguments_leavesTypes member),
      List.map_id']
  rw [Signature.apply_of_pairing walk, bind_formatArguments, List.map_append, kept]

inductive Comparator
  | eq
  | ne
  | gt
  | ge
  | lt
  | le

def Comparator.name : Comparator → String
  | eq => "eq"
  | ne => "ne"
  | gt => "gt"
  | ge => "ge"
  | lt => "lt"
  | le => "le"

inductive Comparison
  | compare (operator : Comparator) (left right : Expr)
  | isIn (left : Expr) (values : List Value)

namespace Comparison

variable {schema : Schema} {argument : Expr × Parameter}

def build (comparison : Comparison) (format : Option Format) : Except Error Expr :=
  match comparison with
  | compare operator left right => Filter.compare operator.name left right format
  | isIn left values => Filter.isIn left values format

def lhs : Parameter := Builtin.generic "lhs"

def rhs : Parameter := (Builtin.generic "rhs").withNullability .nullable

def items : Parameter := .operand "rhs" (.genericCollection "T")

def signature : Comparison → Signature
  | compare operator _ _ => .declared operator.name .filter [lhs, rhs, Builtin.format]
      (.type .boolean) (.between operator.name)
  | isIn _ _ => .declared "in" .filter [lhs, items, Builtin.format] (.type .boolean)
      (.between "in")

def given : Comparison → List (Expr × Parameter)
  | compare _ left right => [(left, lhs), (right, rhs)]
  | isIn left values => [(left, lhs), (.constant (.list values), items)]

/-- The sides once one has taken its type from the other. -/
def sides : Comparison → List (Expr × Parameter)
  | compare _ left right => [(left.beside right, lhs), (right.beside left, rhs)]
  | isIn left values =>
    [(left, lhs), (.value (.list values) (left.concreteType?.map .collection), items)]

def call (comparison : Comparison) (format : Option Format) : Call where
  receiver := none
  args := comparison.sides ++ formatArguments format
  signature := comparison.signature
  bindings := Signature.bind comparison.given

theorem bindingOf?_lhs (e : Expr) : Signature.bindingOf? (e, lhs) = e.concreteType?.map ("T", ·) :=
  Signature.bindingOf?_generic rfl e

def common : Comparison → Option TypeRef
  | compare _ left right => left.concreteType?.or right.concreteType?
  | isIn left _ => left.concreteType?

theorem get?_bind_given (comparison : Comparison) :
    (Signature.bind comparison.given).get? "T" = comparison.common := by
  cases comparison with
  | compare operator left right =>
    have second : Signature.bindingOf? (right, rhs) = right.concreteType?.map ("T", ·) :=
      Signature.bindingOf?_generic rfl right
    rw [Signature.get?_bind, given, List.filterMap_cons, List.filterMap_cons, List.filterMap_nil,
      bindingOf?_lhs, second, common]
    cases left.concreteType? <;> cases right.concreteType? <;> rfl
  | isIn left values =>
    have second : Signature.bindingOf? (.constant (.list values), items) = none := rfl
    rw [Signature.get?_bind, given, List.filterMap_cons, List.filterMap_cons, List.filterMap_nil,
      bindingOf?_lhs, second, common]
    cases left.concreteType? <;> rfl

theorem typed_given (comparison : Comparison) :
    comparison.given.map (Signature.typeConstant (Signature.bind comparison.given)) =
      comparison.sides := by
  have first : Signature.resolvedType? lhs (Signature.bind comparison.given) = comparison.common :=
    comparison.get?_bind_given
  cases comparison with
  | compare operator left right =>
    have second : Signature.resolvedType? rhs (Signature.bind [(left, lhs), (right, rhs)]) =
        left.concreteType?.or right.concreteType? := first
    rw [given] at first ⊢
    rw [List.map_cons, List.map_singleton, Signature.typeConstant_eq, Signature.typeConstant_eq,
      first, second, common, Expr.expecting_own_or, Expr.expecting_or_own]
    rfl
  | isIn left values =>
    have second : Signature.resolvedType? items
        (Signature.bind [(left, lhs), (.constant (.list values), items)]) =
          left.concreteType?.map .collection := congrArg (Option.map TypeRef.collection) first
    rw [given] at first ⊢
    rw [List.map_cons, List.map_singleton, Signature.typeConstant_eq, Signature.typeConstant_eq,
      first, second, common, Expr.expecting_own]
    rfl

theorem build_eq (comparison : Comparison) (format : Option Format) :
    comparison.build format = .ok (.call (comparison.call format)) := by
  have applied : comparison.signature.apply none
      (comparison.given.map Prod.fst ++ Filter.formatArgs format) =
        .ok (.call (comparison.call format)) := by
    rw [call, ← typed_given]
    cases comparison with
    | compare operator left right =>
      exact apply_formatted left right format rfl (by decide)
    | isIn left values => exact apply_formatted left _ format rfl (by decide)
  rw [← applied]
  cases comparison with
  | compare operator left right => cases operator <;> rfl
  | isIn left values => rfl

theorem plain_sides {comparison : Comparison} (member : argument ∈ comparison.sides) :
    argument.2.directiveKind? = none := by
  cases comparison <;> rcases List.mem_pair.mp member with rfl | rfl <;> rfl

theorem bare (comparison : Comparison) : (comparison.call none).Bare comparison.signature.layout
    (comparison.sides.map Prod.fst) := by
  constructor
  case laid => rfl
  case receiver => rfl
  case checked => cases comparison <;> rfl
  case plain =>
    intro argument member
    rw [call, formatArguments, Filter.formatArgs, List.map_nil, List.append_nil] at member
    exact plain_sides member
  case given => exact congrArg _ (List.append_nil _)

end Comparison

namespace Renderer

variable {renderer : Renderer} {layout : Layout} {scope : Scope}

theorem layOut_pair {left right : Expr} {rendering : Rendering} :
    (renderer.layOut layout [left, right] scope).outcome = .ok rendering ↔
      ∃ a b, (renderer.laidOut layout scope left).outcome = .ok a ∧
        (renderer.laidOut layout scope right).outcome = .ok b ∧
        rendering = ⟨firstRoot [a.1, b.1], some (callText layout none [a.2, b.2])⟩ := by
  rw [layOut, Traced.outcome_bind_eq_ok]
  constructor
  · rintro ⟨texts, mapped, made⟩
    rcases Traced.mapM_eq_ok.mp mapped with _ | ⟨first, _ | ⟨second, _ | _⟩⟩
    cases made
    exact ⟨_, _, first, second, rfl⟩
  · rintro ⟨a, b, first, second, rfl⟩
    exact ⟨[a, b], Traced.mapM_eq_ok.mpr (.cons first (.cons second .nil)), rfl⟩

def comparand (renderer : Renderer) (operator : Comparator) (e : Expr) : Except Error String :=
  (renderer.laidOut (.between operator.name) .it e).outcome.map Prod.snd

theorem render_compare_iff {operator : Comparator} {left right e : Expr} {text : String}
    (compared : Filter.compare operator.name left right none = .ok e) :
    (renderer.render e).outcome = .ok text ↔
      ∃ a b, renderer.comparand operator (left.beside right) = .ok a ∧
        renderer.comparand operator (right.beside left) = .ok b ∧
        text = a ++ " " ++ operator.name ++ " " ++ b := by
  cases compared.symm.trans ((Comparison.compare operator left right).build_eq none)
  have bare : ((Comparison.compare operator left right).call none).Bare (.between operator.name)
      [left.beside right, right.beside left] := (Comparison.compare operator left right).bare
  have written (a b : String) : callText (.between operator.name) none [a, b] =
      a ++ " " ++ operator.name ++ " " ++ b := by
    simp [callText, Text.joined_cons, String.append_assoc]
  rw [render, Traced.outcome_bind_eq_ok]
  simp only [(evaluate_bare bare .it).outcome, layOut_pair, comparand, map_eq_ok]
  constructor
  · rintro ⟨_, ⟨a, b, first, second, rfl⟩, same⟩
    cases same
    exact ⟨a.2, b.2, ⟨a, first, rfl⟩, ⟨b, second, rfl⟩, written a.2 b.2⟩
  · rintro ⟨_, _, ⟨a, first, rfl⟩, ⟨b, second, rfl⟩, rfl⟩
    exact ⟨_, ⟨a, b, first, second, rfl⟩, congrArg Except.ok (written a.2 b.2)⟩

/-- A comparison reads the same from either side: both orders are refused, or both are written
with the same texts on their sides. -/
theorem render_compare_swap (renderer : Renderer) (operator : Comparator) (left right : Expr) :
    ∃ e e', Filter.compare operator.name left right none = .ok e ∧
      Filter.compare operator.name right left none = .ok e' ∧
      ((∃ a b, renderer.comparand operator (left.beside right) = .ok a ∧
          renderer.comparand operator (right.beside left) = .ok b ∧
          (renderer.render e).outcome = .ok (a ++ " " ++ operator.name ++ " " ++ b) ∧
          (renderer.render e').outcome = .ok (b ++ " " ++ operator.name ++ " " ++ a)) ∨
        ((∀ text, (renderer.render e).outcome ≠ .ok text) ∧
          ∀ text, (renderer.render e').outcome ≠ .ok text)) := by
  have made := (Comparison.compare operator left right).build_eq none
  have made' := (Comparison.compare operator right left).build_eq none
  refine ⟨_, _, made, made', ?_⟩
  by_cases texts : ∃ a b, renderer.comparand operator (left.beside right) = .ok a ∧
      renderer.comparand operator (right.beside left) = .ok b
  · obtain ⟨a, b, first, second⟩ := texts
    exact .inl ⟨a, b, first, second, (render_compare_iff made).mpr ⟨a, b, first, second, rfl⟩,
      (render_compare_iff made').mpr ⟨b, a, second, first, rfl⟩⟩
  · refine .inr ⟨fun text rendered => ?_, fun text rendered => ?_⟩
    · obtain ⟨a, b, first, second, _⟩ := (render_compare_iff made).mp rendered
      exact texts ⟨a, b, first, second⟩
    · obtain ⟨b, a, second, first, _⟩ := (render_compare_iff made').mp rendered
      exact texts ⟨a, b, first, second⟩

end Renderer
end ODataRequest
