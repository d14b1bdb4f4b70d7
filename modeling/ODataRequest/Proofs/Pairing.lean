import Mathlib.Data.List.Forall2
import ODataRequest.Clause.Call
namespace ODataRequest

/-!
What pairing does with the arguments of a call. `Pairing` says which argument goes to which
parameter and which arguments are lost: a repeated directive parameter that meets an argument of
another kind takes it off the list without keeping it. Nothing else is ever lost.
-/

namespace Expr

def expecting (type : Option TypeRef) : Expr → Expr
  | value v none => value v type
  | e => e

theorem expecting_none (e : Expr) : e.expecting none = e := by
  unfold expecting
  split <;> rfl

end Expr

namespace Signature

/-- A walk over parameters and arguments, with the pairs made and the arguments lost on it. -/
inductive Pairing :
    List Parameter → List Expr → List (Expr × Parameter) → List Expr → Prop
  | done : Pairing [] [] [] []
  | passed {p : Parameter} {parameters : List Parameter} {args lost : List Expr}
      {pairs : List (Expr × Parameter)} :
      p.repeated = false → p.optional = true → (∀ e ∈ args.head?, e.fits p = false) →
      Pairing parameters args pairs lost → Pairing (p :: parameters) args pairs lost
  | taken {p : Parameter} {parameters : List Parameter} {e : Expr} {rest lost : List Expr}
      {pairs : List (Expr × Parameter)} :
      p.repeated = false → (p.optional = true → e.fits p = true) →
      Pairing parameters rest pairs lost →
      Pairing (p :: parameters) (e :: rest) ((e, p) :: pairs) lost
  | absorbed {p : Parameter} {parameters : List Parameter} {e : Expr} {rest lost : List Expr}
      {pairs : List (Expr × Parameter)} :
      p.repeated = true → parameters.length ≤ rest.length →
      (p.directiveKind?.isSome = true → e.matchesDirective p = true) →
      Pairing (p :: parameters) rest pairs lost →
      Pairing (p :: parameters) (e :: rest) ((e, p) :: pairs) lost
  | closed {p : Parameter} {parameters : List Parameter} {args lost : List Expr}
      {pairs : List (Expr × Parameter)} :
      p.repeated = true → args.length ≤ parameters.length →
      Pairing parameters args pairs lost → Pairing (p :: parameters) args pairs lost
  | swallowed {p : Parameter} {parameters : List Parameter} {e : Expr} {rest lost : List Expr}
      {pairs : List (Expr × Parameter)} :
      p.repeated = true → parameters.length ≤ rest.length → p.directiveKind?.isSome = true →
      e.matchesDirective p = false → Pairing parameters rest pairs lost →
      Pairing (p :: parameters) (e :: rest) pairs (e :: lost)

/-- Some argument is taken off the list without being paired. -/
def Swallows (parameters : List Parameter) (args : List Expr) : Prop :=
  ∃ pairs lost, Pairing parameters args pairs lost ∧ lost ≠ []

/-- An untyped constant may have gained a type; nothing else has changed. -/
inductive GainsType : Expr → Expr → Prop
  | same (e : Expr) : GainsType e e
  | typed (v : Value) (type : Option TypeRef) : GainsType (.value v none) (.value v type)

theorem pairing_of_absorb {p : Parameter} {parameters : List Parameter}
    {args taken left lost : List Expr} {pairs : List (Expr × Parameter)}
    (repeated : p.repeated = true) (absorbed : absorb p parameters.length args = (taken, left))
    (rest : Pairing parameters left pairs lost) :
    ∃ lost', Pairing (p :: parameters) args (taken.map (·, p) ++ pairs) lost' := by
  induction args generalizing taken with
  | nil =>
    simp only [absorb, Prod.mk.injEq] at absorbed
    obtain ⟨rfl, rfl⟩ := absorbed
    exact ⟨lost, .closed repeated (by simp) rest⟩
  | cons e args ih =>
    unfold absorb at absorbed
    split at absorbed
    · rename_i enough
      split at absorbed
      · rename_i other
        simp only [Bool.and_eq_true, Bool.not_eq_eq_eq_not, Bool.not_true] at other
        simp only [Prod.mk.injEq] at absorbed
        obtain ⟨rfl, rfl⟩ := absorbed
        exact ⟨e :: lost, .swallowed repeated (by omega) other.1 other.2 rest⟩
      · rename_i fitting
        simp only [Prod.mk.injEq] at absorbed
        obtain ⟨rfl, rfl⟩ := absorbed
        obtain ⟨lost', walk⟩ := ih rfl
        refine ⟨lost', .absorbed repeated (by omega) (fun directive => ?_) walk⟩
        simpa [directive] using fitting
    · rename_i few
      simp only [Prod.mk.injEq] at absorbed
      obtain ⟨rfl, rfl⟩ := absorbed
      exact ⟨lost, .closed repeated (by simp only [List.length_cons]; omega) rest⟩

theorem pairing_of_pairFrom {parameters : List Parameter} {args : List Expr}
    {pairs : List (Expr × Parameter)} (paired : pairFrom parameters args = some (pairs, [])) :
    ∃ lost, Pairing parameters args pairs lost := by
  induction parameters generalizing args pairs with
  | nil =>
    simp only [pairFrom, Option.some.injEq, Prod.mk.injEq] at paired
    obtain ⟨rfl, rfl⟩ := paired
    exact ⟨[], .done⟩
  | cons p parameters ih =>
    unfold pairFrom at paired
    split at paired
    · rename_i repeated
      obtain ⟨⟨pairs', left⟩, walk, same⟩ := Option.map_eq_some_iff.mp paired
      simp only [Prod.mk.injEq] at same
      obtain ⟨rfl, rfl⟩ := same
      obtain ⟨lost, rest⟩ := ih walk
      exact pairing_of_absorb repeated rfl rest
    · rename_i single
      have single : p.repeated = false := by simpa using single
      split at paired
      · split at paired
        · rename_i optional
          obtain ⟨lost, rest⟩ := ih paired
          exact ⟨lost, .passed single optional (by simp) rest⟩
        · simp at paired
      · rename_i e rest
        split at paired
        · rename_i accepted
          obtain ⟨⟨pairs', left⟩, walk, same⟩ := Option.map_eq_some_iff.mp paired
          simp only [Prod.mk.injEq] at same
          obtain ⟨rfl, rfl⟩ := same
          obtain ⟨lost, rest⟩ := ih walk
          refine ⟨lost, .taken single (fun optional => ?_) rest⟩
          simpa [optional] using accepted
        · rename_i refused
          simp only [Bool.or_eq_true, Bool.not_eq_eq_eq_not, Bool.not_true, not_or,
            Bool.not_eq_false, Bool.not_eq_true] at refused
          obtain ⟨lost, rest⟩ := ih paired
          exact ⟨lost, .passed single refused.1 (by simpa using refused.2) rest⟩

theorem pairFrom_of_pairing {parameters : List Parameter} {args lost : List Expr}
    {pairs : List (Expr × Parameter)} (walk : Pairing parameters args pairs lost) :
    pairFrom parameters args = some (pairs, []) := by
  induction walk with
  | done => rfl
  | @passed p parameters args lost pairs single optional other _ ih =>
    cases args with
    | nil => simpa [pairFrom, single, optional] using ih
    | cons e rest =>
      have misfit : e.fits p = false := other e (by simp)
      simpa [pairFrom, single, optional, misfit] using ih
  | @taken p parameters e rest lost pairs single fitting _ ih =>
    have accepted : (!p.optional || e.fits p) = true := by
      cases optional : p.optional with
      | false => rfl
      | true => simpa using fitting optional
    simp [pairFrom, single, accepted, ih]
  | @absorbed p parameters e rest lost pairs repeated enough fitting _ ih =>
    have kept : (p.directiveKind?.isSome && !e.matchesDirective p) = false := by
      cases directive : p.directiveKind?.isSome with
      | false => rfl
      | true => simpa using fitting directive
    have room : parameters.length < rest.length + 1 := by omega
    -- The rest of the walk is still at the same parameter.
    unfold pairFrom at ih ⊢
    rw [if_pos repeated] at ih ⊢
    obtain ⟨⟨pairs', left⟩, walk, same⟩ := Option.map_eq_some_iff.mp ih
    simp only [Prod.mk.injEq] at same
    obtain ⟨rfl, rfl⟩ := same
    simp [absorb, room, kept, walk]
  | @closed p parameters args lost pairs repeated few _ ih =>
    have nothing : absorb p parameters.length args = ([], args) := by
      cases args with
      | nil => rfl
      | cons e rest =>
        have full : ¬parameters.length < rest.length + 1 := by
          simp only [List.length_cons] at few
          omega
        simp [absorb, full]
    simp [pairFrom, repeated, nothing, ih]
  | @swallowed p parameters e rest lost pairs repeated enough directive other _ ih =>
    have room : parameters.length < rest.length + 1 := by omega
    simp [pairFrom, repeated, absorb, room, directive, other, ih]

theorem pairFrom_eq_some_iff {parameters : List Parameter} {args : List Expr}
    {pairs : List (Expr × Parameter)} :
    pairFrom parameters args = some (pairs, []) ↔ ∃ lost, Pairing parameters args pairs lost :=
  ⟨pairing_of_pairFrom, fun ⟨_, walk⟩ => pairFrom_of_pairing walk⟩

theorem pairing_required {required parameters : List Parameter} {firsts args lost : List Expr}
    {pairs : List (Expr × Parameter)}
    (single : ∀ p ∈ required, p.repeated = false ∧ p.optional = false)
    (enough : firsts.length = required.length) (rest : Pairing parameters args pairs lost) :
    Pairing (required ++ parameters) (firsts ++ args) (firsts.zip required ++ pairs) lost := by
  induction required generalizing firsts with
  | nil =>
    cases List.length_eq_zero_iff.mp enough
    exact rest
  | cons p required ih =>
    cases firsts with
    | nil => cases enough
    | cons e firsts =>
      rcases List.forall_mem_cons.mp single with ⟨⟨once, needed⟩, single⟩
      apply Pairing.taken once
      · intro optional
        rw [needed] at optional
        cases optional
      · exact ih single (Nat.succ.inj enough)

theorem pairing_omitted {optional : List Parameter}
    (omissible : ∀ p ∈ optional, p.repeated = false ∧ p.optional = true) :
    Pairing optional [] [] [] := by
  induction optional with
  | nil => exact .done
  | cons p optional ih =>
    rcases List.forall_mem_cons.mp omissible with ⟨⟨once, optional⟩, omissible⟩
    exact .passed once optional nofun (ih omissible)

theorem pairing_extras {p : Parameter} {parameters : List Parameter}
    {extras args lost : List Expr} {pairs : List (Expr × Parameter)}
    (repeated : p.repeated = true) (operand : p.directiveKind? = none)
    (enough : parameters.length ≤ args.length)
    (rest : Pairing (p :: parameters) args pairs lost) :
    Pairing (p :: parameters) (extras ++ args) (extras.map (·, p) ++ pairs) lost := by
  induction extras with
  | nil => exact rest
  | cons e extras ih =>
    have room : parameters.length ≤ (extras ++ args).length := by
      rw [List.length_append]
      omega
    refine .absorbed repeated room (fun directive => ?_) ih
    rw [operand] at directive
    cases directive

theorem pairing_repeated {p : Parameter} (repeated : p.repeated = true)
    (operand : p.directiveKind? = none) (args : List Expr) :
    Pairing [p] args (args.map (·, p)) [] := by
  have closed : Pairing [p] [] [] [] := .closed repeated (Nat.zero_le _) .done
  simpa only [List.append_nil] using pairing_extras repeated operand (Nat.zero_le _) closed

theorem pairing_length {parameters : List Parameter} {args lost : List Expr}
    {pairs : List (Expr × Parameter)} (walk : Pairing parameters args pairs lost) :
    pairs.length + lost.length = args.length := by
  induction walk with
  | done => rfl
  | passed _ _ _ _ ih => exact ih
  | taken _ _ _ ih => simp only [List.length_cons]; omega
  | absorbed _ _ _ _ ih => simp only [List.length_cons]; omega
  | closed _ _ _ ih => exact ih
  | swallowed _ _ _ _ _ ih => simp only [List.length_cons]; omega

theorem pairing_sublist {parameters : List Parameter} {args lost : List Expr}
    {pairs : List (Expr × Parameter)} (walk : Pairing parameters args pairs lost) :
    (pairs.map Prod.fst).Sublist args := by
  induction walk with
  | done => exact .slnil
  | passed _ _ _ _ ih => exact ih
  | taken _ _ _ ih => exact ih.cons_cons _
  | absorbed _ _ _ _ ih => exact ih.cons_cons _
  | closed _ _ _ ih => exact ih
  | swallowed _ _ _ _ _ ih => exact ih.cons _

theorem pairing_declared {parameters : List Parameter} {args lost : List Expr}
    {pairs : List (Expr × Parameter)} (walk : Pairing parameters args pairs lost) :
    ∀ pair ∈ pairs, pair.2 ∈ parameters := by
  induction walk with
  | done => simp
  | passed _ _ _ _ ih => exact fun pair member => .tail _ (ih pair member)
  | taken _ _ _ ih =>
    intro pair member
    rcases List.mem_cons.mp member with rfl | member
    · exact .head _
    · exact .tail _ (ih pair member)
  | absorbed _ _ _ _ ih =>
    intro pair member
    rcases List.mem_cons.mp member with rfl | member
    · exact .head _
    · exact ih pair member
  | closed _ _ _ ih => exact fun pair member => .tail _ (ih pair member)
  | swallowed _ _ _ _ _ ih => exact fun pair member => .tail _ (ih pair member)

/-- Only a repeated directive parameter loses arguments, and only those of another kind. -/
theorem pairing_lost {parameters : List Parameter} {args lost : List Expr}
    {pairs : List (Expr × Parameter)} (walk : Pairing parameters args pairs lost) :
    ∀ e ∈ lost, e ∈ args ∧ ∃ p ∈ parameters, p.repeated = true ∧
      p.directiveKind?.isSome = true ∧ e.matchesDirective p = false := by
  induction walk with
  | done => simp
  | passed _ _ _ _ ih | closed _ _ _ ih =>
    intro e member
    obtain ⟨present, p, declared, reason⟩ := ih e member
    exact ⟨present, p, .tail _ declared, reason⟩
  | taken _ _ _ ih =>
    intro e member
    obtain ⟨present, p, declared, reason⟩ := ih e member
    exact ⟨.tail _ present, p, .tail _ declared, reason⟩
  | absorbed _ _ _ _ ih =>
    intro e member
    obtain ⟨present, reason⟩ := ih e member
    exact ⟨.tail _ present, reason⟩
  | swallowed repeated _ directive other _ ih =>
    intro e member
    rcases List.mem_cons.mp member with rfl | member
    · exact ⟨.head _, _, .head _, repeated, directive, other⟩
    · obtain ⟨present, p, declared, reason⟩ := ih e member
      exact ⟨.tail _ present, p, .tail _ declared, reason⟩

theorem gainsType_typeConstant (bindings : Table TypeRef) (pair : Expr × Parameter) :
    GainsType pair.1 (typeConstant bindings pair).1 := by
  unfold typeConstant
  split
  · exact .typed _ _
  · exact .same _

theorem typeConstant_parameter (bindings : Table TypeRef) (pair : Expr × Parameter) :
    (typeConstant bindings pair).2 = pair.2 := by
  unfold typeConstant
  split <;> rfl

theorem gainsType_map (bindings : Table TypeRef) (pairs : List (Expr × Parameter)) :
    List.Forall₂ GainsType (pairs.map Prod.fst)
      ((pairs.map (typeConstant bindings)).map Prod.fst) := by
  induction pairs with
  | nil => exact .nil
  | cons pair rest ih => exact .cons (gainsType_typeConstant bindings pair) ih

theorem apply_of_pairing {s : Signature} {receiver : Option Expr} {args lost : List Expr}
    {pairs : List (Expr × Parameter)} (walk : Pairing s.parameters args pairs lost) :
    s.apply receiver args =
      .ok (.call ⟨receiver, pairs.map (typeConstant (bind pairs)), s, bind pairs⟩) := by
  have paired : s.pair args = .ok pairs := by
    rw [pair, pairFrom_eq_some_iff.mpr ⟨lost, walk⟩]
  simp [apply, paired, Bind.bind, Except.bind, pure, Except.pure]

theorem typeConstant_eq (bindings : Table TypeRef) (pair : Expr × Parameter) :
    typeConstant bindings pair = (pair.1.expecting (resolvedType? pair.2 bindings), pair.2) := by
  obtain ⟨e, p⟩ := pair
  cases e with
  | value v type => cases type <;> rfl
  | _ => rfl

def leavesTypes (p : Parameter) : Bool :=
  match p.kind with
  | .operand .any _ | .directive _ _ => true
  | .operand _ _ => false

theorem bindingOf?_of_leavesTypes {pair : Expr × Parameter} (untyped : leavesTypes pair.2 = true) :
    bindingOf? pair = none := by
  obtain ⟨e, name, kind, optional, repeated⟩ := pair
  rcases kind with ⟨_ | _ | _ | _, _⟩ | _
  case operand.any | directive => rfl
  all_goals cases untyped

theorem typeConstant_of_leavesTypes {pair : Expr × Parameter} (bindings : Table TypeRef)
    (untyped : leavesTypes pair.2 = true) : typeConstant bindings pair = pair := by
  have nothing : resolvedType? pair.2 bindings = none := by
    obtain ⟨e, name, kind, optional, repeated⟩ := pair
    rcases kind with ⟨_ | _ | _ | _, _⟩ | _
    case operand.any | directive => rfl
    all_goals cases untyped
  rw [typeConstant_eq, nothing, Expr.expecting_none]

theorem apply_of_leavesTypes {s : Signature} {receiver : Option Expr} {args lost : List Expr}
    {pairs : List (Expr × Parameter)} (walk : Pairing s.parameters args pairs lost)
    (untyped : ∀ p ∈ s.parameters, leavesTypes p = true) :
    s.apply receiver args = .ok (.call ⟨receiver, pairs, s, .empty⟩) := by
  have each : ∀ pair ∈ pairs, leavesTypes pair.2 = true :=
    fun pair member => untyped pair.2 (pairing_declared walk pair member)
  have unbound : bind pairs = .empty := by
    rw [bind, List.filterMap_eq_nil_iff.mpr fun pair member =>
      bindingOf?_of_leavesTypes (each pair member)]
    rfl
  have kept : pairs.map (typeConstant .empty) = pairs := by
    rw [List.map_congr_left fun pair member =>
      typeConstant_of_leavesTypes .empty (each pair member), List.map_id']
  rw [apply_of_pairing walk, unbound, kept]

structure Positional (p : Parameter) : Prop where
  once : p.repeated = false
  required : p.optional = false
  untyped : leavesTypes p = true

theorem apply_of_positional {s : Signature} {receiver : Option Expr} {args : List Expr}
    (positional : ∀ p ∈ s.parameters, Positional p) (enough : args.length = s.parameters.length) :
    s.apply receiver args = .ok (.call ⟨receiver, args.zip s.parameters, s, .empty⟩) := by
  have single : ∀ p ∈ s.parameters, p.repeated = false ∧ p.optional = false :=
    fun p member => ⟨(positional p member).once, (positional p member).required⟩
  have walk := pairing_required single enough .done
  rw [List.append_nil, List.append_nil, List.append_nil] at walk
  exact apply_of_leavesTypes walk fun p member => (positional p member).untyped

theorem apply_of_unpaired {s : Signature} {receiver : Option Expr} {args : List Expr}
    (unpaired : ∀ pairs lost, ¬Pairing s.parameters args pairs lost) :
    s.apply receiver args = .error (.argumentCount s.name s.arityText args.length) := by
  have refused : s.pair args = .error (.argumentCount s.name s.arityText args.length) := by
    unfold pair
    split
    · rename_i pairs paired
      obtain ⟨lost, walk⟩ := pairFrom_eq_some_iff.mp paired
      exact absurd walk (unpaired pairs lost)
    · rfl
  simp [apply, refused, Bind.bind, Except.bind]

theorem pairing_unique {parameters : List Parameter} {args lost lost' : List Expr}
    {pairs pairs' : List (Expr × Parameter)} (walk : Pairing parameters args pairs lost)
    (walk' : Pairing parameters args pairs' lost') : pairs = pairs' := by
  have same : some (pairs, ([] : List Expr)) = some (pairs', []) := by
    rw [← pairFrom_of_pairing walk, ← pairFrom_of_pairing walk']
  simpa using same

theorem swallows_iff {parameters : List Parameter} {args lost : List Expr}
    {pairs : List (Expr × Parameter)} (walk : Pairing parameters args pairs lost) :
    Swallows parameters args ↔ pairs.length ≠ args.length := by
  constructor
  · rintro ⟨pairs', lost', walk', gone⟩
    have total := pairing_length walk'
    have positive := List.length_pos_iff.mpr gone
    rw [pairing_unique walk walk']
    omega
  · intro fewer
    have total := pairing_length walk
    refine ⟨pairs, lost, walk, fun kept => ?_⟩
    simp only [kept, List.length_nil] at total
    omega

/-- The arguments of a call are the given ones in their order, some lost perhaps: none exactly if
no repeated directive parameter swallows one. Whatever cannot be paired is refused by count. -/
theorem apply_keeps_arguments_iff (s : Signature) (receiver : Option Expr) (args : List Expr) :
    match s.apply receiver args with
    | .error e =>
      e = .argumentCount s.name s.arityText args.length ∧
        ∀ pairs lost, ¬Pairing s.parameters args pairs lost
    | .ok e => ∃ c, e = .call c ∧ c.receiver = receiver ∧ c.signature = s ∧
        (∀ argument ∈ c.args, argument.2 ∈ s.parameters) ∧
        (∃ kept, kept.Sublist args ∧ List.Forall₂ GainsType kept (c.args.map Prod.fst)) ∧
        (List.Forall₂ GainsType args (c.args.map Prod.fst) ↔ ¬Swallows s.parameters args) ∧
        (Swallows s.parameters args → ∃ e ∈ args, ∃ p ∈ s.parameters, p.repeated = true ∧
          p.directiveKind?.isSome = true ∧ e.matchesDirective p = false) := by
  by_cases walks : ∃ pairs lost, Pairing s.parameters args pairs lost
  · obtain ⟨pairs, lost, walk⟩ := walks
    rw [apply_of_pairing walk]
    have gained := gainsType_map (bind pairs) pairs
    refine ⟨_, rfl, rfl, rfl, ?declared, ⟨_, pairing_sublist walk, gained⟩, ?whole, ?cause⟩
    case declared =>
      intro argument member
      obtain ⟨pair, present, rfl⟩ := List.mem_map.mp member
      rw [typeConstant_parameter]
      exact pairing_declared walk pair present
    case whole =>
      rw [swallows_iff walk, not_not]
      constructor
      · intro all
        simpa using all.length_eq.symm
      · intro whole
        have same := (pairing_sublist walk).eq_of_length (by simpa using whole)
        rwa [same] at gained
    case cause =>
      rintro ⟨pairs', lost', walk', gone⟩
      obtain ⟨e, member⟩ := List.exists_mem_of_ne_nil lost' gone
      obtain ⟨present, reason⟩ := pairing_lost walk' e member
      exact ⟨e, present, reason⟩
  · have unpaired : ∀ pairs lost, ¬Pairing s.parameters args pairs lost :=
      fun pairs lost walk => walks ⟨pairs, lost, walk⟩
    rw [apply_of_unpaired unpaired]
    exact ⟨rfl, unpaired⟩

/-- The second path is taken off the list by the parameter for sub-queries and is gone. -/
theorem expand_loses_second_path :
    ∃ s c, Builtin.signature .expand "expand" = .ok s ∧
      s.apply none [.member none "Orders" .int64, .member none "Items" .int64] = .ok (.call c) ∧
      c.args.map Prod.fst = [.member none "Orders" .int64] ∧
      ¬List.Forall₂ GainsType [.member none "Orders" .int64, .member none "Items" .int64]
        (c.args.map Prod.fst) := by
  refine ⟨_, _, rfl, rfl, rfl, fun all => ?_⟩
  have lengths := all.length_eq
  exact absurd lengths (by decide)

end Signature
end ODataRequest
