import ODataRequest.Fallible
import ODataRequest.Traced
import ODataRequest.Logged
import Mathlib.Data.List.Forall2
namespace ODataRequest

section Fallible

variable {ε α β : Type}

theorem map_unit_eq_ok {x : Except ε α} : (x.map fun _ => ()) = .ok () ↔ ∃ a, x = .ok a := by
  cases x with
  | error e => simp [Except.map]
  | ok a => simp [Except.map]

theorem forM_eq_ok {f : α → Except ε Unit} {items : List α} :
    items.forM f = .ok () ↔ ∀ a ∈ items, f a = .ok () := by
  induction items with
  | nil => simp [pure, Except.pure]
  | cons head rest ih =>
    rw [List.forM, bind_eq_ok, List.forall_mem_cons, ih]
    constructor
    · rintro ⟨_, first, others⟩
      exact ⟨first, others⟩
    · rintro ⟨first, others⟩
      exact ⟨(), first, others⟩

theorem exists_of_forall₂ {R : α → β → Prop} {items : List α} {results : List β}
    (related : List.Forall₂ R items results) {a : α} (member : a ∈ items) :
    ∃ b ∈ results, R a b := by
  induction related with
  | nil => cases member
  | cons head _ ih =>
    rcases List.mem_cons.mp member with rfl | member
    · exact ⟨_, List.mem_cons_self, head⟩
    · rcases ih member with ⟨b, present, held⟩
      exact ⟨b, List.mem_cons_of_mem _ present, held⟩

theorem exists_forall₂_iff {R : α → β → Prop} {items : List α} :
    (∃ results, List.Forall₂ R items results) ↔ ∀ a ∈ items, ∃ b, R a b := by
  constructor
  · rintro ⟨results, related⟩ a member
    rcases exists_of_forall₂ related member with ⟨b, _, held⟩
    exact ⟨b, held⟩
  · intro each
    induction items with
    | nil => exact ⟨[], .nil⟩
    | cons head rest ih =>
      rcases each head List.mem_cons_self with ⟨first, held⟩
      rcases ih fun a member => each a (List.mem_cons_of_mem _ member) with ⟨others, related⟩
      exact ⟨first :: others, .cons held related⟩

theorem mapM_eq_ok {f : α → Except ε β} {items : List α} {results : List β} :
    items.mapM f = .ok results ↔ List.Forall₂ (fun a b => f a = .ok b) items results := by
  induction items generalizing results with
  | nil =>
    rw [List.forall₂_nil_left_iff, eq_comm]
    exact Except.ok.injEq .. |>.to_iff
  | cons head rest ih =>
    rw [List.mapM_cons, bind_eq_ok]
    constructor
    · rintro ⟨first, applied, mapped⟩
      rcases bind_eq_ok.mp mapped with ⟨others, inner, same⟩
      cases same
      exact .cons applied (ih.mp inner)
    · intro each
      cases each with
      | cons applied others =>
        exact ⟨_, applied, bind_eq_ok.mpr ⟨_, ih.mpr others, rfl⟩⟩

theorem foldlM_split {f : β → α → Except ε β} {before after : List α} {a : α} {start final : β}
    (folded : (before ++ a :: after).foldlM f start = .ok final) :
    ∃ b b', before.foldlM f start = .ok b ∧ f b a = .ok b' ∧ after.foldlM f b' = .ok final := by
  rw [List.foldlM_append] at folded
  rcases bind_eq_ok.mp folded with ⟨b, reached, folded⟩
  rw [List.foldlM_cons] at folded
  rcases bind_eq_ok.mp folded with ⟨b', stepped, folded⟩
  exact ⟨b, b', reached, stepped, folded⟩

theorem exists_of_foldlM_eq_error {f : β → α → Except ε β} {items : List α} {start : β} {e : ε}
    (failed : items.foldlM f start = .error e) :
    ∃ before a after b, items = before ++ a :: after ∧ before.foldlM f start = .ok b ∧
      f b a = .error e := by
  induction items generalizing start with
  | nil => cases failed
  | cons head rest ih =>
    rw [List.foldlM_cons] at failed
    rcases bind_eq_error.mp failed with first | ⟨b, stepped, others⟩
    · exact ⟨[], head, rest, start, rfl, rfl, first⟩
    · rcases ih others with ⟨before, a, after, b', rfl, reached, last⟩
      refine ⟨head :: before, a, after, b', rfl, ?_, last⟩
      rw [List.foldlM_cons]
      exact bind_eq_ok.mpr ⟨b, stepped, reached⟩

end Fallible

/-- The computation comes to a value with the first property, or fails for a cause with the
second. -/
def Yields {ε α : Type} (x : Except ε α) (P : α → Prop) (E : ε → Prop) : Prop :=
  match x with
  | .ok a => P a
  | .error e => E e

namespace Yields

variable {ε α β : Type} {x : Except ε α} {P Q : α → Prop} {R : β → Prop} {E : ε → Prop}

theorem ok {a : α} (holds : P a) : Yields (.ok a) P E := holds

theorem error {e : ε} (cause : E e) : Yields (.error e) P E := cause

theorem of_eq_ok (yields : Yields x P E) {a : α} (reached : x = .ok a) : P a := by
  subst reached
  exact yields

theorem of_eq_error (yields : Yields x P E) {e : ε} (failed : x = .error e) : E e := by
  subst failed
  exact yields

theorem exists_ok (yields : Yields x P fun _ => False) : ∃ a, x = .ok a ∧ P a := by
  cases x with
  | ok a => exact ⟨a, rfl, yields⟩
  | error e => exact yields.elim

theorem of_cases (reached : ∀ a, x = .ok a → P a) (failed : ∀ e, x = .error e → E e) :
    Yields x P E := by
  cases x with
  | ok a => exact reached a rfl
  | error e => exact failed e rfl

theorem mono (yields : Yields x P E) (weaker : ∀ a, P a → Q a) : Yields x Q E := by
  cases x with
  | ok a => exact weaker a yields
  | error e => exact yields

theorem causes {F : ε → Prop} (yields : Yields x P E) (wider : ∀ e, E e → F e) :
    Yields x P F := by
  cases x with
  | ok a => exact yields
  | error e => exact wider e yields

theorem bind {f : α → Except ε β} (first : Yields x P E) (next : ∀ a, P a → Yields (f a) R E) :
    Yields (x >>= f) R E := by
  cases x with
  | ok a => exact next a first
  | error e => exact first

theorem logged {x : Logged ε α} {f : α → Logged ε β} (first : Yields x.outcome P E)
    (next : ∀ a, P a → Yields (f a).outcome R E) : Yields (x >>= f).outcome R E := by
  obtain ⟨warnings, outcome⟩ := x
  cases outcome with
  | ok a => exact next a first
  | error e => exact first

theorem map {f : α → β} (yields : Yields x P E) (sends : ∀ a, P a → R (f a)) :
    Yields (x.map f) R E := by
  cases x with
  | ok a => exact sends a yields
  | error e => exact yields

theorem mapM {f : α → Except ε β} {items : List α} (each : ∀ a ∈ items, Yields (f a) R E) :
    Yields (items.mapM f) (fun results => ∀ b ∈ results, R b) E := by
  induction items with
  | nil => exact fun b member => absurd member List.not_mem_nil
  | cons head rest ih =>
    rw [List.mapM_cons]
    apply bind (each head List.mem_cons_self)
    intro first holds
    apply bind (ih fun a member => each a (List.mem_cons_of_mem _ member))
    intro others hold b member
    rcases List.mem_cons.mp member with rfl | member
    · exact holds
    · exact hold b member

theorem forM {f : α → Except ε Unit} {items : List α}
    (each : ∀ a ∈ items, Yields (f a) (fun _ => True) E) :
    Yields (items.forM f) (fun _ => True) E := by
  induction items with
  | nil => exact trivial
  | cons head rest ih =>
    apply bind (each head List.mem_cons_self)
    intro _ _
    exact ih fun a member => each a (List.mem_cons_of_mem _ member)

theorem foldlM {f : β → α → Except ε β} {items : List α} {start : β} (holds : R start)
    (step : ∀ b, R b → ∀ a ∈ items, Yields (f b a) R E) : Yields (items.foldlM f start) R E := by
  induction items generalizing start with
  | nil => exact holds
  | cons head rest ih =>
    rw [List.foldlM_cons]
    apply bind (step start holds head List.mem_cons_self)
    intro b kept
    exact ih kept fun b holds a member => step b holds a (List.mem_cons_of_mem _ member)

theorem foldlM_logged {f : β → α → Logged ε β} {items : List α} {start : β} (holds : R start)
    (step : ∀ b, R b → ∀ a ∈ items, Yields (f b a).outcome R E) :
    Yields (items.foldlM f start).outcome R E := by
  induction items generalizing start with
  | nil => exact holds
  | cons head rest ih =>
    rw [List.foldlM_cons]
    apply logged (step start holds head List.mem_cons_self)
    intro b kept
    exact ih kept fun b holds a member => step b holds a (List.mem_cons_of_mem _ member)

theorem traced {x : Traced α} {f : α → Traced β} {E : Error → Prop} (first : Yields x.outcome P E)
    (next : ∀ a, P a → Yields (f a).outcome R E) : Yields (x >>= f).outcome R E := by
  obtain ⟨met, outcome⟩ := x
  cases outcome with
  | ok a => exact next a first
  | error e => exact first

theorem mapM_traced {f : α → Traced β} {items : List α} {E : Error → Prop}
    (each : ∀ a ∈ items, Yields (f a).outcome R E) :
    Yields (items.mapM f).outcome (fun results => ∀ b ∈ results, R b) E := by
  induction items with
  | nil => exact fun b member => absurd member List.not_mem_nil
  | cons head rest ih =>
    rw [List.mapM_cons]
    apply traced (each head List.mem_cons_self)
    intro first holds
    apply traced (ih fun a member => each a (List.mem_cons_of_mem _ member))
    intro others hold b member
    rcases List.mem_cons.mp member with rfl | member
    · exact holds
    · exact hold b member

end Yields

namespace Logged

variable {ε α β γ : Type}

theorem id_map (x : Logged ε α) : id <$> x = x := by
  obtain ⟨warnings, outcome⟩ := x
  cases outcome <;> simp [Functor.map, bind]

theorem pure_bind (a : α) (f : α → Logged ε β) : pure a >>= f = f a := by
  simp [Bind.bind, Pure.pure, bind]

theorem bind_assoc (x : Logged ε α) (f : α → Logged ε β) (g : β → Logged ε γ) :
    x >>= f >>= g = x >>= fun a => f a >>= g := by
  obtain ⟨warnings, outcome⟩ := x
  cases outcome with
  | error e => simp [Bind.bind, bind]
  | ok a =>
    simp only [Bind.bind, bind]
    cases (f a).outcome <;> simp

instance : LawfulMonad (Logged ε) := .mk' (Logged ε) id_map pure_bind bind_assoc

@[simp] theorem ofExcept_ok (a : α) : (ofExcept (.ok a) : Logged ε α) = pure a := rfl

theorem outcome_bind_eq_ok {x : Logged ε α} {f : α → Logged ε β} {b : β} :
    (x >>= f).outcome = .ok b ↔ ∃ a, x.outcome = .ok a ∧ (f a).outcome = .ok b := by
  obtain ⟨warnings, outcome⟩ := x
  cases outcome <;> simp [Bind.bind, bind]

end Logged

namespace Traced

variable {α β : Type}

theorem outcome_bind_eq_ok {x : Traced α} {f : α → Traced β} {b : β} :
    (x >>= f).outcome = .ok b ↔ ∃ a, x.outcome = .ok a ∧ (f a).outcome = .ok b := by
  obtain ⟨met, outcome⟩ := x
  cases outcome <;> simp [Bind.bind, bind]

theorem exists_outcome_bind {x : Traced α} {f : α → Traced β} :
    (∃ b, (x >>= f).outcome = .ok b) ↔ ∃ a, x.outcome = .ok a ∧ ∃ b, (f a).outcome = .ok b := by
  simp only [outcome_bind_eq_ok, ← exists_and_left]
  exact exists_comm

theorem mapM_eq_ok {f : α → Traced β} {items : List α} {results : List β} :
    (items.mapM f).outcome = .ok results ↔
      List.Forall₂ (fun a b => (f a).outcome = .ok b) items results := by
  induction items generalizing results with
  | nil =>
    rw [List.forall₂_nil_left_iff, eq_comm]
    exact Except.ok.injEq .. |>.to_iff
  | cons head rest ih =>
    rw [List.mapM_cons, outcome_bind_eq_ok]
    constructor
    · rintro ⟨first, applied, mapped⟩
      rcases outcome_bind_eq_ok.mp mapped with ⟨others, inner, same⟩
      cases same
      exact .cons applied (ih.mp inner)
    · intro each
      cases each with
      | cons applied others =>
        exact ⟨_, applied, outcome_bind_eq_ok.mpr ⟨_, ih.mpr others, rfl⟩⟩

theorem outcome_of_mapM {f : α → Traced β} {items : List α} {results : List β}
    (mapped : (items.mapM f).outcome = .ok results) {a : α} (member : a ∈ items) :
    ∃ b, (f a).outcome = .ok b := by
  rcases exists_of_forall₂ (mapM_eq_ok.mp mapped) member with ⟨b, _, applied⟩
  exact ⟨b, applied⟩

theorem mem_met_mapM_iff {f : α → Traced β} {items : List α} {results : List β}
    (mapped : (items.mapM f).outcome = .ok results) {param : Alias} :
    param ∈ (items.mapM f).met ↔ ∃ a ∈ items, param ∈ (f a).met := by
  induction items generalizing results with
  | nil => simp [pure]
  | cons head rest ih =>
    rw [List.mapM_cons] at mapped ⊢
    rcases outcome_bind_eq_ok.mp mapped with ⟨first, applied, mapped⟩
    rcases outcome_bind_eq_ok.mp mapped with ⟨others, inner, same⟩
    have rest_met : param ∈ (rest.mapM f).met ↔ ∃ a ∈ rest, param ∈ (f a).met := ih inner
    simp [mem_met_bind_iff, applied, rest_met, pure]

end Traced
end ODataRequest
