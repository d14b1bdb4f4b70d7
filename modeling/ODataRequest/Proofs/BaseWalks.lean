import Mathlib.Logic.Function.Iterate
import ODataRequest.Proofs.BaseChains
namespace ODataRequest.Schema

/-- A walk along base references. It is at a type, with the types on the way to it and all full
names met, or it has ended. -/
inductive Walk
  | underway (below : List ComplexType) (met : List String) (current : ComplexType)
  | ended (outcome : Except Error (List ComplexType))

variable {schema : Schema} {c d next current : ComplexType} {below : List ComplexType}
  {met : List String} {base : TypeRef}

namespace Walk

def start (c : ComplexType) : Walk := .underway [] [c.fullName] c

def step (schema : Schema) : Walk → Walk
  | .ended outcome => .ended outcome
  | .underway below met current =>
    match current.base with
    | none => .ended (.ok (below ++ [current]))
    | some base =>
      match schema.complex base with
      | .error _ => .ended (.error (.unresolvedBase current.fullName base.text))
      | .ok next =>
        if next.fullName ∈ met then
          .ended (.error (.unresolvedBase current.fullName base.text))
        else .underway (below ++ [current]) (next.fullName :: met) next

theorem step_root (root : current.base = none) :
    (underway below met current).step schema = .ended (.ok (below ++ [current])) := by
  rw [step, root]

theorem step_unresolved {e : Error} (refers : current.base = some base)
    (unresolved : schema.complex base = .error e) :
    (underway below met current).step schema =
      .ended (.error (.unresolvedBase current.fullName base.text)) := by
  simp only [step, refers, unresolved]

theorem step_returned (refers : current.base = some base)
    (resolved : schema.complex base = .ok next) (returned : next.fullName ∈ met) :
    (underway below met current).step schema =
      .ended (.error (.unresolvedBase current.fullName base.text)) := by
  simp only [step, refers, resolved, if_pos returned]

theorem step_onward (refers : current.base = some base)
    (resolved : schema.complex base = .ok next) (unmet : next.fullName ∉ met) :
    (underway below met current).step schema =
      .underway (below ++ [current]) (next.fullName :: met) next := by
  simp only [step, refers, resolved, if_neg unmet]

theorem iterate_step_ended (outcome : Except Error (List ComplexType)) (n : Nat) :
    (step schema)^[n] (.ended outcome) = .ended outcome :=
  Function.iterate_fixed rfl n

theorem iterate_step_underway {n : Nat} (enough : (schema.unmet met).length ≤ n) :
    (step schema)^[n + 1] (.underway below met current) =
      .ended ((schema.basesFrom met current).map (below ++ current :: ·)) := by
  rw [Function.iterate_succ_apply]
  fun_induction basesFrom schema met current generalizing below n with
  | case1 met current root =>
    rw [step_root root, iterate_step_ended]
    rfl
  | case2 met current base refers e unresolved =>
    rw [step_unresolved refers unresolved, iterate_step_ended]
    rfl
  | case3 met current base refers next resolved fresh ih =>
    have unmet : next.fullName ∉ met := by simpa using fresh
    -- Behind the step one type fewer is left to be met, so one step fewer is enough.
    have fewer := unmet_length_lt (complex_mem resolved) fresh
    obtain ⟨n, rfl⟩ := Nat.exists_eq_succ_of_ne_zero (show n ≠ 0 by omega)
    rw [step_onward refers resolved unmet, Function.iterate_succ_apply, ih (by omega)]
    cases schema.basesFrom (next.fullName :: met) next with
    | error e => rfl
    | ok bases => simp [Except.map]
  | case4 met current base refers next resolved returned =>
    have met : next.fullName ∈ met := by simpa using returned
    rw [step_returned refers resolved met, iterate_step_ended]
    rfl

theorem iterate_step_start (schema : Schema) (c : ComplexType) :
    (step schema)^[schema.complexTypes.length + 1] (start c) = .ended (schema.baseChain c) :=
  iterate_step_underway (List.length_filter_le _ _)

end Walk

/-- Base references lead from `c` through `below` to `d`, and no full name returns on the way. -/
structure Ascent (schema : Schema) (c : ComplexType) (below : List ComplexType) (d : ComplexType) :
    Prop where
  starts : (below ++ [d]).head? = some c
  climbs : (below ++ [d]).IsChain schema.Extends
  distinct : ((below ++ [d]).map ComplexType.fullName).Nodup

/-- The base reference of `d` leads to no type, or to a full name on the way to `d`. -/
inductive Strands (schema : Schema) (below : List ComplexType) (d : ComplexType) : Prop
  | dangling : (∀ next, ¬schema.Extends d next) → Strands schema below d
  | returning {next : ComplexType} : schema.Extends d next →
      next.fullName ∈ (below ++ [d]).map ComplexType.fullName → Strands schema below d

/-- The error is about the base reference of a type that base references lead to from `c`, and the
walk cannot go on from there. -/
def Stranded (schema : Schema) (c : ComplexType) (e : Error) : Prop :=
  ∃ below d base, schema.Ascent c below d ∧ d.base = some base ∧ schema.Strands below d ∧
    e = .unresolvedBase d.fullName base.text

namespace Ascent

theorem start (schema : Schema) (c : ComplexType) : schema.Ascent c [] c where
  starts := rfl
  climbs := .singleton c
  distinct := List.nodup_singleton _

theorem onward (ascent : schema.Ascent c below d) (leads : schema.Extends d next)
    (unmet : next.fullName ∉ (below ++ [d]).map ComplexType.fullName) :
    schema.Ascent c (below ++ [d]) next where
  starts := by
    rw [List.head?_append, ascent.starts]
    rfl
  climbs := by
    refine List.isChain_append.mpr ⟨ascent.climbs, .singleton next, ?_⟩
    simpa using leads
  distinct := by
    rw [List.map_append, List.map_singleton, List.nodup_append_comm]
    exact List.nodup_cons.mpr ⟨unmet, ascent.distinct⟩

theorem lineage (ascent : schema.Ascent c below d) (root : d.base = none) :
    schema.Lineage c (below ++ [d]) where
  starts := ascent.starts
  climbs := ascent.climbs
  ends := by simpa using root
  distinct := ascent.distinct

end Ascent

/-- What holds of a walk from `c` as it goes on: it has met the names on its way and no others. -/
def Walk.Sound (schema : Schema) (c : ComplexType) : Walk → Prop
  | .underway below met current =>
    schema.Ascent c below current ∧
      ∀ name, name ∈ met ↔ name ∈ (below ++ [current]).map ComplexType.fullName
  | .ended outcome => Yields outcome (schema.Lineage c) (schema.Stranded c)

theorem Walk.sound_start (schema : Schema) (c : ComplexType) : (start c).Sound schema c :=
  ⟨.start schema c, fun _ => Iff.rfl⟩

theorem Walk.Sound.step {walk : Walk} (sound : walk.Sound schema c) :
    (walk.step schema).Sound schema c := by
  cases walk with
  | ended outcome => exact sound
  | underway below met current =>
    rcases sound with ⟨ascent, met_iff⟩
    cases refers : current.base with
    | none =>
      rw [step_root refers]
      exact ascent.lineage refers
    | some base =>
      cases resolved : schema.complex base with
      | error e =>
        have dangling (next : ComplexType) : ¬schema.Extends current next := by
          rw [extends_iff refers, resolved]
          nofun
        rw [step_unresolved refers resolved]
        exact ⟨below, current, base, ascent, refers, .dangling dangling, rfl⟩
      | ok next =>
        have leads : schema.Extends current next := (extends_iff refers).mpr resolved
        by_cases returned : next.fullName ∈ met
        · rw [step_returned refers resolved returned]
          exact ⟨below, current, base, ascent, refers,
            .returning leads ((met_iff _).mp returned), rfl⟩
        · have unmet : next.fullName ∉ (below ++ [current]).map ComplexType.fullName :=
            mt (met_iff _).mpr returned
          rw [step_onward refers resolved returned]
          refine ⟨ascent.onward leads unmet, fun name => ?_⟩
          rw [List.map_append, List.mem_append, List.map_singleton, List.mem_singleton,
            List.mem_cons, met_iff, or_comm]

theorem Walk.sound_iterate (schema : Schema) (c : ComplexType) (n : Nat) :
    ((Walk.step schema)^[n] (start c)).Sound schema c :=
  Function.Iterate.rec (Walk.Sound schema c) (sound_start schema c) (fun _ => Walk.Sound.step) n

theorem baseChain_yields (schema : Schema) (c : ComplexType) :
    Yields (schema.baseChain c) (schema.Lineage c) (schema.Stranded c) := by
  have sound := Walk.sound_iterate schema c (schema.complexTypes.length + 1)
  rwa [Walk.iterate_step_start] at sound

/-- The walk from any type ends after at most one step for each complex type and one more. It comes
to the lineage of the type, and where there is none its error is about the type that it cannot go on
from. -/
theorem baseChain_ends (schema : Schema) (c : ComplexType) :
    (Walk.step schema)^[schema.complexTypes.length + 1] (.start c) =
        .ended (schema.baseChain c) ∧
      (∀ chain, schema.baseChain c = .ok chain ↔ schema.Lineage c chain) ∧
      ((∃ e, schema.baseChain c = .error e ∧ schema.Stranded c e) ↔
        ¬∃ chain, schema.Lineage c chain) := by
  refine ⟨Walk.iterate_step_start schema c, fun _ => baseChain_eq_ok, ?_⟩
  constructor
  · rintro ⟨e, failed, -⟩ ⟨chain, lineage⟩
    rw [baseChain_eq_ok.mpr lineage] at failed
    cases failed
  · intro without
    cases walked : schema.baseChain c with
    | error e => exact ⟨e, rfl, (schema.baseChain_yields c).of_eq_error walked⟩
    | ok chain => exact absurd ⟨chain, baseChain_eq_ok.mp walked⟩ without

end ODataRequest.Schema
