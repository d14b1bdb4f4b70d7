import ODataRequest.Expr.Basic
namespace ODataRequest

/-- A result together with the parameter aliases met on the way to it, in order, also to a
failure. -/
structure Traced (α : Type) where
  met : List Alias
  outcome : Except Error α

namespace Traced

variable {α β γ : Type}

def bind (x : Traced α) (f : α → Traced β) : Traced β :=
  match x.outcome with
  | .ok a => ⟨x.met ++ (f a).met, (f a).outcome⟩
  | .error e => ⟨x.met, .error e⟩

instance : Monad Traced where
  pure a := ⟨[], .ok a⟩
  bind := bind

def fail (e : Error) : Traced α := ⟨[], .error e⟩

def ofExcept (outcome : Except Error α) : Traced α := ⟨[], outcome⟩

def meet (param : Alias) : Traced Unit := ⟨[param], .ok ()⟩

theorem id_map (x : Traced α) : id <$> x = x := by
  obtain ⟨met, outcome⟩ := x
  cases outcome <;> simp [Functor.map, bind]

theorem pure_bind (a : α) (f : α → Traced β) : pure a >>= f = f a := by
  simp [Bind.bind, Pure.pure, bind]

theorem bind_assoc (x : Traced α) (f : α → Traced β) (g : β → Traced γ) :
    x >>= f >>= g = x >>= fun a => f a >>= g := by
  obtain ⟨met, outcome⟩ := x
  cases outcome with
  | error e => simp [Bind.bind, bind]
  | ok a =>
    simp only [Bind.bind, bind]
    cases (f a).outcome <;> simp

instance : LawfulMonad Traced := .mk' Traced id_map pure_bind bind_assoc

@[simp] theorem ofExcept_ok (a : α) : ofExcept (.ok a) = pure a := rfl

theorem mem_met_bind_iff {x : Traced α} {f : α → Traced β} {param : Alias} :
    param ∈ (x >>= f).met ↔ param ∈ x.met ∨ ∃ a, x.outcome = .ok a ∧ param ∈ (f a).met := by
  obtain ⟨met, outcome⟩ := x
  cases outcome <;> simp [Bind.bind, bind]

theorem met_bind_pure (x : Traced α) (f : α → β) : (x >>= fun a => pure (f a)).met = x.met := by
  obtain ⟨met, outcome⟩ := x
  cases outcome <;> simp [Bind.bind, bind, Pure.pure]

theorem not_mem_met_pure {a : α} {param : Alias} : param ∉ (pure a : Traced α).met := by
  simp [pure]

theorem not_mem_met_ofExcept {outcome : Except Error α} {param : Alias} :
    param ∉ (ofExcept outcome).met := by
  simp [ofExcept]

theorem not_mem_met_fail {e : Error} {param : Alias} : param ∉ (fail e : Traced α).met := by
  simp [fail]

theorem mem_met_mapM {f : α → Traced β} {items : List α} {param : Alias}
    (member : param ∈ (items.mapM f).met) : ∃ a ∈ items, param ∈ (f a).met := by
  induction items with
  | nil => exact absurd member not_mem_met_pure
  | cons head rest ih =>
    rw [List.mapM_cons] at member
    rcases mem_met_bind_iff.mp member with member | ⟨_, _, member⟩
    · exact ⟨head, by simp, member⟩
    · rw [met_bind_pure] at member
      obtain ⟨a, present, found⟩ := ih member
      exact ⟨a, by simp [present], found⟩

end Traced
end ODataRequest
