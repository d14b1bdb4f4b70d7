import ODataRequest.Clause.Filter
import ODataRequest.Proofs.Outcomes
import ODataRequest.Proofs.Pairing
import Mathlib.Data.Fin.VecNotation
namespace ODataRequest.Arithmetic

inductive Operator : Nat → Type
  | add : Operator 2
  | sub : Operator 2
  | mul : Operator 2
  | div : Operator 2
  | divby : Operator 2
  | modulo : Operator 2
  | negate : Operator 1
  | ceiling : Operator 1
  | floor : Operator 1
  | round : Operator 1

/-- An expression that is taken as it is, or an operator applied to terms. -/
inductive Term
  | leaf (e : Expr)
  | apply {n : Nat} (operator : Operator n) (operands : Fin n → Term)

def inferred (integral : Bool) : PrimitiveType := if integral then .int64 else .double

theorem isInteger_inferred (integral : Bool) : (inferred integral).type.isInteger = integral := by
  cases integral <;> decide

def parameters (arity : Nat) : List Parameter := (["lhs", "rhs"].take arity).map Builtin.untyped

theorem parameters_untyped {arity : Nat} {p : Parameter} (member : p ∈ parameters arity) :
    ∃ name, p = Builtin.untyped name := by
  obtain ⟨name, _, rfl⟩ := List.mem_map.mp member
  exact ⟨name, rfl⟩

theorem parameters_positional {arity : Nat} {p : Parameter} (member : p ∈ parameters arity) :
    Signature.Positional p := by
  obtain ⟨name, rfl⟩ := parameters_untyped member
  exact ⟨rfl, rfl, rfl⟩

namespace Operator

variable {n : Nat}

def name : Operator n → String
  | add => "add"
  | sub => "sub"
  | mul => "mul"
  | div => "div"
  | divby => "divby"
  | modulo => "mod"
  | negate => "negate"
  | ceiling => "ceiling"
  | floor => "floor"
  | round => "round"

def layout (operator : Operator n) : Layout :=
  match operator with
  | add | sub | mul | div | divby | modulo => .between operator.name
  | negate => .before "-"
  | ceiling | floor | round => .function operator.name

def isQuotient : Operator n → Bool
  | div | divby => true
  | _ => false

def signature (operator : Operator n) (type : PrimitiveType) : Signature :=
  .declared operator.name .filter (parameters n) (.type type.type) operator.layout

def call (operator : Operator n) (type : PrimitiveType) (operands : List Expr) : Call where
  receiver := none
  args := operands.zip (parameters n)
  signature := operator.signature type
  bindings := .empty

theorem length_parameters (operator : Operator n) : (parameters n).length = n := by
  cases operator <;> rfl

theorem overload_inferred (operator : Operator n) (integral : Bool) :
    Builtin.overload .filter operator.name (inferred integral) =
      .ok (operator.signature (inferred integral)) := by
  cases operator <;> cases integral <;> rfl

theorem inferResult_operands (operator : Operator n) {operands : List Expr}
    (arity : operands.length = n) : Filter.inferResult operator.name operands none =
      inferred (!operator.isQuotient && operands.all Expr.isInteger) := by
  have given : operands ≠ [] := by
    rintro rfl
    cases arity
    cases operator
  cases operator <;> simp [Filter.inferResult, inferred, name, isQuotient, given]

theorem numeric_inferred (operator : Operator n) {operands : List Expr}
    (arity : operands.length = n) : Filter.numeric operator.name operands none =
      .ok (.call (operator.call (inferred (!operator.isQuotient && operands.all Expr.isInteger))
        operands)) := by
  rw [Filter.numeric, inferResult_operands operator arity, overload_inferred]
  exact Signature.apply_of_positional (s := operator.signature _) (fun p => parameters_positional)
    (arity.trans operator.length_parameters.symm)

end Operator

namespace Term

def isLeaf : Term → Bool
  | leaf _ => true
  | apply _ _ => false

def build : Term → Except Error Expr
  | leaf e => .ok e
  | apply (n := n) operator operands => do
    let built ← (List.finRange n).mapM fun i => (operands i).build
    Filter.numeric operator.name built none

def leaves : Term → List Expr
  | leaf e => [e]
  | apply (n := n) _ operands => (List.finRange n).flatMap fun i => (operands i).leaves

def divides : Term → Bool
  | leaf _ => false
  | apply (n := n) operator operands =>
    operator.isQuotient || (List.finRange n).any fun i => (operands i).divides

/-- Whether the term is taken for an integer, one operator after another. -/
def integral : Term → Bool
  | leaf e => e.isInteger
  | apply (n := n) operator operands =>
    !operator.isQuotient && (List.finRange n).all fun i => (operands i).integral

theorem integral_iff (term : Term) : term.integral = true ↔
    (∀ leaf ∈ term.leaves, leaf.isInteger = true) ∧ term.divides = false := by
  induction term with
  | leaf e => simp [integral, leaves, divides]
  | apply operator operands ih =>
    simp only [integral, leaves, divides, Bool.and_eq_true, Bool.not_eq_true',
      Bool.or_eq_false_iff, List.all_eq_true, List.any_eq_false, List.mem_flatMap,
      List.mem_finRange, true_imp_iff, true_and, ih, Bool.not_eq_true]
    constructor
    · rintro ⟨whole, each⟩
      refine ⟨?_, whole, fun i => (each i).2⟩
      rintro leaf ⟨i, member⟩
      exact (each i).1 leaf member
    · rintro ⟨integers, whole, undivided⟩
      exact ⟨whole, fun i => ⟨fun leaf member => integers leaf ⟨i, member⟩, undivided i⟩⟩

theorem build_integral (term : Term) : ∃ e, term.build = .ok e ∧ e.isInteger = term.integral ∧
    (term.isLeaf = false → e.concreteType? = some (inferred term.integral).type) := by
  induction term with
  | leaf e => exact ⟨e, rfl, rfl, nofun⟩
  | @apply n operator operands ih =>
    choose built each integers _ using ih
    have mapped : (List.finRange n).mapM (fun i => (operands i).build) =
        .ok ((List.finRange n).map built) := by
      rw [mapM_eq_ok, List.forall₂_map_right_iff]
      exact List.forall₂_same.mpr fun i _ => each i
    have arity : ((List.finRange n).map built).length = n := by simp
    have whole : ((List.finRange n).map built).all Expr.isInteger =
        (List.finRange n).all fun i => (operands i).integral := by
      simp only [List.all_map, Function.comp_def, integers]
    refine ⟨.call (operator.call (inferred (apply operator operands).integral)
      ((List.finRange n).map built)), ?_, isInteger_inferred _, fun _ => rfl⟩
    rw [build, mapped, integral, ← whole]
    exact operator.numeric_inferred arity

/-- Whatever its leaves are, a term of arithmetic can be built. It is a 64-bit integer exactly if
all leaves are known to be integers and nothing is divided, and a double otherwise. -/
theorem build_typed {term : Term} (composed : term.isLeaf = false) :
    ∃ e, term.build = .ok e ∧
      (e.concreteType? = some .int64 ↔
        (∀ leaf ∈ term.leaves, leaf.isInteger = true) ∧ term.divides = false) ∧
      (e.concreteType? = some .int64 ∨ e.concreteType? = some (.edm "Double")) := by
  obtain ⟨e, built, _, typed⟩ := term.build_integral
  refine ⟨e, built, ?_⟩
  rw [typed composed, ← integral_iff]
  cases term.integral <;> decide

def ages : Term :=
  .apply .mul ![
    .apply .add ![.leaf (.constant (.int 3)), .leaf (.member none "Age" .int32)],
    .apply .floor ![.leaf (.constant (.decimal ⟨20, 1⟩))]]

theorem build_typed_ages : ages.isLeaf = false ∧
    ∃ e, ages.build = .ok e ∧ e.concreteType? = some .int64 := by
  have composed : ages.isLeaf = false := rfl
  obtain ⟨e, built, integer, _⟩ := build_typed composed
  exact ⟨composed, e, built, integer.mpr ⟨by decide, by decide⟩⟩

end Term
end ODataRequest.Arithmetic
