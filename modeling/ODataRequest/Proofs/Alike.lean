import ODataRequest.Proofs.Outcomes
namespace ODataRequest

/-!
Two runs side by side. They fail alike, or come to values that are related.
-/

variable {ε α β γ δ : Type} {R : α → β → Prop} {Q : γ → δ → Prop}

inductive Alike (R : α → β → Prop) : Except ε α → Except ε β → Prop
  | error (e : ε) : Alike R (.error e) (.error e)
  | ok {a : α} {b : β} (related : R a b) : Alike R (.ok a) (.ok b)

namespace Alike

theorem fail_or_succeed {x : Except ε α} {y : Except ε β} (alike : Alike R x y) :
    (∃ e, x = .error e ∧ y = .error e) ∨ ∃ a b, x = .ok a ∧ y = .ok b ∧ R a b := by
  cases alike with
  | error e => exact .inl ⟨e, rfl, rfl⟩
  | ok related => exact .inr ⟨_, _, rfl, rfl, related⟩

theorem of_eq_ok {x : Except ε α} {y : Except ε β} {a : α} (alike : Alike R x y)
    (reached : x = .ok a) : ∃ b, y = .ok b ∧ R a b := by
  cases alike with
  | error e => cases reached
  | ok related =>
    cases reached
    exact ⟨_, rfl, related⟩

theorem self {R : α → α → Prop} {x : Except ε α} (each : ∀ a, x = .ok a → R a a) :
    Alike R x x := by
  cases x with
  | error e => exact .error e
  | ok a => exact .ok (each a rfl)

theorem bind {x : Except ε α} {y : Except ε β} {f : α → Except ε γ} {g : β → Except ε δ}
    (first : Alike R x y) (next : ∀ a b, R a b → Alike Q (f a) (g b)) :
    Alike Q (x >>= f) (y >>= g) := by
  cases first with
  | error e => exact .error e
  | ok related => exact next _ _ related

theorem step {x : Except ε α} {f : α → Except ε γ} {g : α → Except ε δ}
    (next : ∀ a, x = .ok a → Alike Q (f a) (g a)) : Alike Q (x >>= f) (x >>= g) := by
  cases x with
  | error e => exact .error e
  | ok a => exact next a rfl

theorem mapM {f : γ → Except ε α} {g : δ → Except ε β} {items : List γ} {items' : List δ}
    (each : List.Forall₂ (fun c d => Alike R (f c) (g d)) items items') :
    Alike (List.Forall₂ R) (items.mapM f) (items'.mapM g) := by
  induction each with
  | nil => exact .ok .nil
  | cons head _ ih =>
    rw [List.mapM_cons, List.mapM_cons]
    apply bind head
    intro a b first
    apply bind ih
    intro others others' related
    exact .ok (.cons first related)

theorem foldlM {f : α → γ → Except ε α} {g : β → δ → Except ε β} {items : List γ}
    {items' : List δ} {a : α} {b : β} (start : R a b)
    (keeps : List.Forall₂ (fun c d => ∀ a b, R a b → Alike R (f a c) (g b d)) items items') :
    Alike R (items.foldlM f a) (items'.foldlM g b) := by
  induction keeps generalizing a b with
  | nil => exact .ok start
  | cons head _ ih =>
    rw [List.foldlM_cons, List.foldlM_cons]
    exact bind (head a b start) fun a b related => ih related

end Alike

structure Logged.Alike (R : α → β → Prop) (x : Logged ε α) (y : Logged ε β) : Prop where
  warnings : x.warnings = y.warnings
  outcome : ODataRequest.Alike R x.outcome y.outcome

namespace Logged.Alike

theorem ofExcept {x : Except ε α} {y : Except ε β} (alike : ODataRequest.Alike R x y) :
    Logged.Alike R (.ofExcept x) (.ofExcept y) := ⟨rfl, alike⟩

theorem bind {x : Logged ε α} {y : Logged ε β} {f : α → Logged ε γ} {g : β → Logged ε δ}
    (first : Logged.Alike R x y) (next : ∀ a b, R a b → Logged.Alike Q (f a) (g b)) :
    Logged.Alike Q (x >>= f) (y >>= g) := by
  obtain ⟨warnings, outcome⟩ := x
  obtain ⟨warnings', outcome'⟩ := y
  obtain ⟨rfl, related⟩ := first
  cases related with
  | error e => exact ⟨rfl, .error e⟩
  | ok related =>
    have later := next _ _ related
    exact ⟨congrArg (warnings ++ ·) later.warnings, later.outcome⟩

theorem step {x : Logged ε α} {f : α → Logged ε γ} {g : α → Logged ε δ}
    (next : ∀ a, x.outcome = .ok a → Logged.Alike Q (f a) (g a)) :
    Logged.Alike Q (x >>= f) (x >>= g) := by
  have same : Logged.Alike (fun a b => a = b ∧ x.outcome = .ok a) x x :=
    ⟨rfl, .self fun a reached => ⟨rfl, reached⟩⟩
  apply same.bind
  rintro a _ ⟨rfl, reached⟩
  exact next a reached

theorem foldlM {f : α → γ → Logged ε α} {g : β → γ → Logged ε β} {items : List γ} {a : α} {b : β}
    (start : R a b) (keeps : ∀ a b, R a b → ∀ c ∈ items, Logged.Alike R (f a c) (g b c)) :
    Logged.Alike R (items.foldlM f a) (items.foldlM g b) := by
  induction items generalizing a b with
  | nil => exact ⟨rfl, .ok start⟩
  | cons head rest ih =>
    rw [List.foldlM_cons, List.foldlM_cons]
    apply bind (keeps a b start head List.mem_cons_self)
    intro a b related
    exact ih related fun a b related c member =>
      keeps a b related c (List.mem_cons_of_mem _ member)

end Logged.Alike
end ODataRequest
